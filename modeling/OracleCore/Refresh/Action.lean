import OracleCore.Refresh.Filter

/-!
# The refresh action

`build_refresh_action` reads the pool box, the refresh box and the oracle
datapoint boxes, filters the datapoints, checks their number against
`min_data_points`, and assembles the refresh transaction: the pool and refresh
boxes, the surviving oracle boxes and wallet boxes for the fee as inputs; the
new pool box, the new refresh box and one re-emitted box per survivor as
outputs.

`calc_pool_rate`, `build_out_pool_box` and `build_out_refresh_box` are
`todo!()` in the sources.  The aggregate rate is left open by the spec, so the
action is modelled over any rate function `poolRate`, which may fail; the
source's own, `calcPoolRate`, panics on every call, and with it no refresh
succeeds.  The two output boxes are modelled from the spec.
-/

namespace OracleCore

/-- What the live-epoch stage, the datapoint stage and the wallet answer. -/
structure RefreshSources where
  poolBox : Except StageError ErgoBox
  refreshBox : Except StageError ErgoBox
  oracleDatapointBoxes : Except StageError (List OracleBox)
  unspentWalletBoxes : Except NodeError (List ErgoBox)

structure RefreshAction where
  tx : UnsignedTransaction

/-- The re-emitted box of one surviving oracle box. -/
def buildOutOracleBox (creationHeight : Nat) (inOb : OracleBox) : Refresh ErgoBoxCandidate := do
  let rewardTokenNew : Token :=
    { inOb.rewardToken with amount := ← unwrap (inOb.rewardToken.amount.checkedAdd TokenAmount.one) }
  pure ((((ErgoBoxCandidateBuilder.new inOb.value inOb.ergoTree creationHeight).setR4
    (.groupElement inOb.publicKey)).addToken inOb.oracleToken).addToken rewardTokenNew).build

/-- `build_out_oracle_boxes`. -/
def buildOutOracleBoxes (validOracleBoxes : List OracleBox) (creationHeight : Nat) :
    Refresh (List ErgoBoxCandidate) :=
  validOracleBoxes.mapM (buildOutOracleBox creationHeight)

/-- Modelled from the spec: `build_out_pool_box` is `todo!()`; the spec's new pool box keeps
the pool box's value, guard and tokens and holds the new rate and the next epoch. -/
def buildOutPoolBox (inPoolBox : ErgoBox) (creationHeight rate : Nat) :
    Refresh ErgoBoxCandidate :=
  match inPoolBox.additionalRegisters[1]? with
  | some (Constant.int epoch) =>
    .ok { inPoolBox.toErgoBoxCandidate with
      additionalRegisters := [.long rate, .int (epoch + 1)], creationHeight }
  | _ => .error (.error .missingRegister)

/-- Modelled from the spec: `build_out_refresh_box` is `todo!()`; the spec's new refresh box
keeps the refresh box and its NFT and takes `reward_decrement` from its reward tokens,
which must keep at least one. -/
def buildOutRefreshBox (inRefreshBox : ErgoBox) (creationHeight rewardDecrement : Nat) :
    Refresh ErgoBoxCandidate :=
  match inRefreshBox.tokens with
  | [refreshNft, reward] =>
    if below : rewardDecrement < reward.amount.raw then
      .ok { inRefreshBox.toErgoBoxCandidate with
        tokens := [refreshNft, ⟨reward.tokenId, ⟨reward.amount.raw - rewardDecrement,
          by omega, by have := reward.amount.le_max; omega⟩⟩], creationHeight }
    else .error (.error (.rewardTokens (.outOfBounds 0)))
  | _ => .error (.error .missingRegister)

/-- `len as u32 * 2`: the `u32` product panics on overflow. -/
def checkedMulU32 (left right : Nat) : Refresh Nat :=
  if left * right < 2 ^ 32 then .ok (left * right) else .error (.panic .arithmeticOverflow)

/-- `input_boxes.try_into().unwrap()`: a transaction holds at most `u16::MAX` inputs. -/
def txIoVec (boxes : List ErgoBox) (nonempty : boxes ≠ []) (changeBoxes : List ErgoBoxAssetsData) :
    Refresh BoxSelection :=
  if boxes.length ≤ 65535 then .ok ⟨boxes, nonempty, changeBoxes⟩
  else .error (.panic .unwrapFailed)

/-- `calc_pool_rate`: `todo!()`. -/
def calcPoolRate (_ : List OracleBox) : Refresh Nat :=
  .error (.panic .todo)

/-- Everything `build_refresh_action` does once the survivors passed the count check:
the outputs built from the survivors, the wallet selection for the fee, the transaction. -/
def buildRefreshTransaction (poolRate : List OracleBox → Refresh Nat) (sources : RefreshSources)
    (inPoolBox inRefreshBox : ErgoBox) (validInOracleBoxes : List OracleBox) (height : Nat)
    (changeAddress : Address) : Refresh RefreshAction := do
  let txFee := BoxValue.SAFE_USER_MIN
  let rate ← poolRate validInOracleBoxes
  let rewardDecrement ← checkedMulU32 (validInOracleBoxes.length % 2 ^ 32) 2
  let outPoolBox ← buildOutPoolBox inPoolBox height rate
  let outRefreshBox ← buildOutRefreshBox inRefreshBox height rewardDecrement
  let outOracleBoxes ← buildOutOracleBoxes validInOracleBoxes height
  let unspentBoxes ← lift .node sources.unspentWalletBoxes
  let selection ← lift .boxSelector (SimpleBoxSelector.select unspentBoxes txFee [])
  let inputBoxes :=
    [inPoolBox, inRefreshBox] ++ validInOracleBoxes.map OracleBox.getBox ++ selection.boxes
  let boxSelection ← txIoVec inputBoxes (List.cons_ne_nil _ _) selection.changeBoxes
  let outputCandidates := [outPoolBox, outRefreshBox] ++ outOracleBoxes
  let tx ← lift .txBuilder
    (TxBuilder.build ⟨boxSelection, outputCandidates, height, txFee, changeAddress⟩)
  pure ⟨tx⟩

/-- `build_refresh_action`. -/
def buildRefreshAction (refreshContract : RefreshContract) (poolRate : List OracleBox → Refresh Nat)
    (sources : RefreshSources) (height : Nat) (changeAddress : Address) :
    Refresh RefreshAction := do
  let inPoolBox ← lift .stage sources.poolBox
  let inRefreshBox ← lift .stage sources.refreshBox
  let inOracleBoxes ← lift .stage sources.oracleDatapointBoxes
  let validInOracleBoxes ← filteredOracleBoxes refreshContract inOracleBoxes
  if validInOracleBoxes.length % 2 ^ 32 ≥ refreshContract.minDataPoints then
    throw (.error (.notEnoughOracleBoxes (validInOracleBoxes.length % 2 ^ 32)
      refreshContract.minDataPoints))
  buildRefreshTransaction poolRate sources inPoolBox inRefreshBox validInOracleBoxes height
    changeAddress

/-- `outBox` re-emits the oracle box `inBox` at `height`: the same value, guard and key, the
oracle token first and the reward token second with one unit more. -/
structure ReEmits (height : Nat) (inBox : OracleBox) (outBox : ErgoBoxCandidate) : Prop where
  value_eq : outBox.value = inBox.value
  ergoTree_eq : outBox.ergoTree = inBox.ergoTree
  registers_eq : outBox.additionalRegisters = [.groupElement inBox.publicKey]
  tokens_eq : ∃ reward : Token, outBox.tokens = [inBox.oracleToken, reward] ∧
    reward.tokenId = inBox.rewardToken.tokenId ∧
    reward.amount.raw = inBox.rewardToken.amount.raw + 1
  height_eq : outBox.creationHeight = height

theorem buildOutOracleBox_reEmits {height : Nat} {inOb : OracleBox} {outBox : ErgoBoxCandidate}
    (built : buildOutOracleBox height inOb = .ok outBox) : ReEmits height inOb outBox := by
  obtain ⟨amount, added, made⟩ := bind_eq_ok.mp built
  simp only [pure, Except.pure, Except.ok.injEq] at made
  subst made
  have raw := TokenAmount.checkedAdd_raw (unwrap_eq_ok.mp added)
  exact ⟨rfl, rfl, rfl, ⟨_, rfl, rfl, by simpa [TokenAmount.one] using raw⟩, rfl⟩

theorem buildOutOracleBox_ok (height : Nat) {inOb : OracleBox}
    (below : inOb.rewardToken.amount.raw < TokenAmount.MAX_RAW) :
    ∃ outBox, buildOutOracleBox height inOb = .ok outBox := by
  have added := @TokenAmount.checkedAdd_of_le inOb.rewardToken.amount TokenAmount.one (by
    simp only [TokenAmount.one]; omega)
  exact ⟨_, bind_eq_ok.mpr ⟨_, unwrap_eq_ok.mpr added, rfl⟩⟩

theorem mapM_ok_forall₂ {step : α → Except ε β} {items : List α} {results : List β}
    (mapped : items.mapM step = .ok results) :
    List.Forall₂ (fun item result => step item = .ok result) items results := by
  induction items generalizing results with
  | nil =>
      cases mapped
      exact .nil
  | cons item items induction =>
      simp only [List.mapM_cons, bind_eq_ok, pure, Except.pure, Except.ok.injEq] at mapped
      obtain ⟨result, stepped, rest, restMapped, rfl⟩ := mapped
      exact .cons stepped (induction restMapped)

theorem mapM_ok_of_forall {step : α → Except ε β} {items : List α}
    (succeeds : ∀ item ∈ items, ∃ result, step item = .ok result) :
    ∃ results, items.mapM step = .ok results := by
  induction items with
  | nil => exact ⟨[], rfl⟩
  | cons item items induction =>
      obtain ⟨result, stepped⟩ := succeeds item (List.mem_cons_self _ _)
      obtain ⟨results, restMapped⟩ :=
        induction fun other member => succeeds other (List.mem_cons_of_mem _ member)
      refine ⟨result :: results, ?_⟩
      rw [List.mapM_cons, stepped, restMapped]
      rfl

/-- `build_out_oracle_boxes` re-emits every survivor, in order, once no reward amount is at
the maximum a token amount can hold. -/
theorem buildOutOracleBoxes_reEmits (height : Nat) {survivors : List OracleBox}
    (below : ∀ inOb ∈ survivors, inOb.rewardToken.amount.raw < TokenAmount.MAX_RAW) :
    ∃ candidates, buildOutOracleBoxes survivors height = .ok candidates ∧
      List.Forall₂ (ReEmits height) survivors candidates := by
  obtain ⟨candidates, built⟩ :=
    mapM_ok_of_forall fun inOb member => buildOutOracleBox_ok height (below inOb member)
  exact ⟨candidates, built, (mapM_ok_forall₂ built).imp fun _ _ => buildOutOracleBox_reEmits⟩

theorem filteredOracleBoxes_ok {refreshContract : RefreshContract}
    {oracleBoxes survivors : List OracleBox}
    (filtered : filteredOracleBoxes refreshContract oracleBoxes = .ok survivors) :
    survivors = sortByRate oracleBoxes := by
  rcases filteredOracleBoxes_whole refreshContract oracleBoxes with whole | ⟨site, panicked⟩
  · rw [whole] at filtered
    cases filtered
    rfl
  · rw [panicked] at filtered
    cases filtered

/-- What a successful refresh action is built from: the stages' answers, and the
transaction built from the sorted datapoint boxes after the count check let them through. -/
theorem buildRefreshAction_ok {refreshContract : RefreshContract}
    {poolRate : List OracleBox → Refresh Nat} {sources : RefreshSources} {height : Nat}
    {changeAddress : Address} {action : RefreshAction}
    (built : buildRefreshAction refreshContract poolRate sources height changeAddress =
      .ok action) :
    ∃ inPoolBox inRefreshBox visible,
      sources.poolBox = .ok inPoolBox ∧ sources.refreshBox = .ok inRefreshBox ∧
      sources.oracleDatapointBoxes = .ok visible ∧
      (sortByRate visible).length % 2 ^ 32 < refreshContract.minDataPoints ∧
      buildRefreshTransaction poolRate sources inPoolBox inRefreshBox (sortByRate visible)
        height changeAddress = .ok action := by
  unfold buildRefreshAction at built
  obtain ⟨inPoolBox, pool, built⟩ := bind_eq_ok.mp built
  obtain ⟨inRefreshBox, refresh, built⟩ := bind_eq_ok.mp built
  obtain ⟨visible, oracles, built⟩ := bind_eq_ok.mp built
  obtain ⟨survivors, filtered, built⟩ := bind_eq_ok.mp built
  obtain rfl := filteredOracleBoxes_ok filtered
  simp only at built
  split at built
  · cases built
  · next few =>
      exact ⟨inPoolBox, inRefreshBox, visible, lift_eq_ok.mp pool, lift_eq_ok.mp refresh,
        lift_eq_ok.mp oracles, Nat.lt_of_not_le few, built⟩

/-- With the source's `calc_pool_rate` no refresh action is ever built: every run that passes
the count check panics in it. -/
theorem buildRefreshAction_calcPoolRate_ne_ok (refreshContract : RefreshContract)
    (sources : RefreshSources) (height : Nat) (changeAddress : Address) (action : RefreshAction) :
    buildRefreshAction refreshContract calcPoolRate sources height changeAddress ≠ .ok action := by
  intro built
  obtain ⟨_, _, _, -, -, -, -, transaction⟩ := buildRefreshAction_ok built
  cases transaction

theorem checkedMulU32_ok {left right product : Nat}
    (multiplied : checkedMulU32 left right = .ok product) : product = left * right := by
  unfold checkedMulU32 at multiplied
  split at multiplied
  · cases multiplied; rfl
  · cases multiplied

theorem txIoVec_ok {boxes : List ErgoBox} {nonempty : boxes ≠ []}
    {changeBoxes : List ErgoBoxAssetsData} {selection : BoxSelection}
    (converted : txIoVec boxes nonempty changeBoxes = .ok selection) :
    selection.boxes = boxes ∧ selection.changeBoxes = changeBoxes ∧ boxes.length ≤ 65535 := by
  unfold txIoVec at converted
  split at converted
  · next bounded => cases converted; exact ⟨rfl, rfl, bounded⟩
  · cases converted

/-- What a refresh transaction is made of: the pool box, the refresh box, the survivors and
the wallet's selection as inputs, in this order; the new pool box, the new refresh box, the
re-emitted survivors, the change and the fee box as outputs, in this order. -/
theorem buildRefreshTransaction_ok {poolRate : List OracleBox → Refresh Nat}
    {sources : RefreshSources} {inPoolBox inRefreshBox : ErgoBox} {survivors : List OracleBox}
    {height : Nat} {changeAddress : Address} {action : RefreshAction}
    (built : buildRefreshTransaction poolRate sources inPoolBox inRefreshBox survivors height
      changeAddress = .ok action) :
    ∃ outPoolBox outRefreshBox outOracleBoxes unspentBoxes selection changeTree,
      (∃ rate, poolRate survivors = .ok rate ∧
        buildOutPoolBox inPoolBox height rate = .ok outPoolBox) ∧
      buildOutRefreshBox inRefreshBox height (survivors.length % 2 ^ 32 * 2) =
        .ok outRefreshBox ∧
      buildOutOracleBoxes survivors height = .ok outOracleBoxes ∧
      sources.unspentWalletBoxes = .ok unspentBoxes ∧
      SimpleBoxSelector.select unspentBoxes BoxValue.SAFE_USER_MIN [] = .ok selection ∧
      action.tx.inputs =
        [inPoolBox, inRefreshBox] ++ survivors.map OracleBox.getBox ++ selection.boxes ∧
      action.tx.outputCandidates = [outPoolBox, outRefreshBox] ++ outOracleBoxes ++
        selection.changeBoxes.map (changeBox changeTree height) ++
        [feeBox BoxValue.SAFE_USER_MIN height] ∧
      action.tx.inputs.length ≤ 65535 := by
  unfold buildRefreshTransaction at built
  obtain ⟨rate, rated, built⟩ := bind_eq_ok.mp built
  obtain ⟨rewardDecrement, multiplied, built⟩ := bind_eq_ok.mp built
  obtain rfl := checkedMulU32_ok multiplied
  obtain ⟨outPoolBox, pool, built⟩ := bind_eq_ok.mp built
  obtain ⟨outRefreshBox, refresh, built⟩ := bind_eq_ok.mp built
  obtain ⟨outOracleBoxes, oracles, built⟩ := bind_eq_ok.mp built
  obtain ⟨unspentBoxes, unspent, built⟩ := bind_eq_ok.mp built
  obtain ⟨selection, selected, built⟩ := bind_eq_ok.mp built
  obtain ⟨boxSelection, converted, built⟩ := bind_eq_ok.mp built
  obtain ⟨tx, txBuilt, made⟩ := bind_eq_ok.mp built
  cases made
  obtain ⟨inputsEq, changeEq, bounded⟩ := txIoVec_ok converted
  obtain ⟨changeTree, -, inputs, outputs, -⟩ := TxBuilder.build_ok (lift_eq_ok.mp txBuilt)
  refine ⟨outPoolBox, outRefreshBox, outOracleBoxes, unspentBoxes, selection, changeTree,
    ⟨rate, rated, pool⟩, refresh, oracles, lift_eq_ok.mp unspent, lift_eq_ok.mp selected, ?_, ?_, ?_⟩
  · rw [inputs, inputsEq]
  · rw [outputs, TxBuilder.outputs, changeEq]
  · rwa [inputs, inputsEq]

section RefreshRuns

def poolNftToken : Token := ⟨⟨10⟩, TokenAmount.one⟩

def refreshNftToken : Token := ⟨⟨11⟩, TokenAmount.one⟩

def hundredRewardTokens : Token := ⟨⟨2⟩, ⟨100, by decide, by decide⟩⟩

/-- A pool box at rate 7 in epoch 1, its refresh box with a hundred reward tokens, and a
wallet box worth two fees. -/
def livePoolBox : ErgoBox :=
  ⟨⟨BoxValue.SAFE_USER_MIN, ⟨3⟩, [poolNftToken], [.long 7, .int 1], 90⟩, ⟨0⟩, 0, ⟨100⟩⟩

def liveRefreshBox : ErgoBox :=
  ⟨⟨BoxValue.SAFE_USER_MIN, ⟨4⟩, [refreshNftToken, hundredRewardTokens], [], 90⟩, ⟨0⟩, 1, ⟨101⟩⟩

def walletBox : ErgoBox :=
  ⟨⟨⟨2000000, by decide, by decide⟩, ⟨5⟩, [], [], 90⟩, ⟨0⟩, 2, ⟨102⟩⟩

def walletAddress : Address := ⟨.ok ⟨5⟩⟩

/-- The stages' answers when the one datapoint box they see is of the given epoch. -/
def oneOracleSources (epoch : Int) : RefreshSources :=
  ⟨.ok livePoolBox, .ok liveRefreshBox, .ok [datapointBox 7 epoch (by decide)], .ok [walletBox]⟩

/-- The refresh transaction of `oneOracleSources` at height 100. -/
def oneOracleRefresh (epoch : Int) : RefreshAction :=
  ⟨⟨[livePoolBox, liveRefreshBox, (datapointBox 7 epoch (by decide)).getBox, walletBox],
    [⟨BoxValue.SAFE_USER_MIN, ⟨3⟩, [poolNftToken], [.long 7, .int 2], 100⟩,
      ⟨BoxValue.SAFE_USER_MIN, ⟨4⟩, [refreshNftToken, ⟨⟨2⟩, ⟨98, by decide, by decide⟩⟩], [], 100⟩,
      ⟨BoxValue.SAFE_USER_MIN, ⟨7⟩, [oracleNft, ⟨⟨2⟩, ⟨6, by decide, by decide⟩⟩],
        [.groupElement ⟨7⟩], 100⟩,
      changeBox ⟨5⟩ 100 ⟨BoxValue.SAFE_USER_MIN, []⟩,
      feeBox BoxValue.SAFE_USER_MIN 100]⟩⟩

/-- A datapoint box of epoch 0, one behind the pool box, is spent and re-emitted. -/
theorem buildRefreshAction_staleOracle :
    buildRefreshAction RefreshContract.default (fun _ => .ok 7) (oneOracleSources 0) 100
      walletAddress = .ok (oneOracleRefresh 0) := by
  simp only [buildRefreshAction, @filteredOracleBoxes_eq RefreshContract.default (by decide)]
  rfl

/-- Three datapoint boxes of epoch 1, seen in the order of rates 9, 7 and 8. -/
def threeDatapointBoxes : List OracleBox :=
  [datapointBox 9 1 (by decide), datapointBox 7 1 (by decide), datapointBox 8 1 (by decide)]

def threeOracleSources : RefreshSources :=
  ⟨.ok livePoolBox, .ok liveRefreshBox, .ok threeDatapointBoxes, .ok [walletBox]⟩

/-- The box re-emitting `datapointBox rate` at height 100. -/
def reEmittedDatapointBox (rate : Nat) : ErgoBoxCandidate :=
  ⟨BoxValue.SAFE_USER_MIN, ⟨7⟩, [oracleNft, ⟨⟨2⟩, ⟨6, by decide, by decide⟩⟩],
    [.groupElement ⟨rate⟩], 100⟩

/-- The refresh transaction of `threeOracleSources` at height 100 at aggregate rate 8: the
survivors are spent and re-emitted in the order of rates 7, 8, 9. -/
def threeOracleRefresh : RefreshAction :=
  ⟨⟨[livePoolBox, liveRefreshBox, (datapointBox 7 1 (by decide)).getBox,
      (datapointBox 8 1 (by decide)).getBox, (datapointBox 9 1 (by decide)).getBox, walletBox],
    [⟨BoxValue.SAFE_USER_MIN, ⟨3⟩, [poolNftToken], [.long 8, .int 2], 100⟩,
      ⟨BoxValue.SAFE_USER_MIN, ⟨4⟩, [refreshNftToken, ⟨⟨2⟩, ⟨94, by decide, by decide⟩⟩], [], 100⟩,
      reEmittedDatapointBox 7, reEmittedDatapointBox 8, reEmittedDatapointBox 9,
      changeBox ⟨5⟩ 100 ⟨BoxValue.SAFE_USER_MIN, []⟩,
      feeBox BoxValue.SAFE_USER_MIN 100]⟩⟩

theorem buildRefreshAction_threeOracles :
    buildRefreshAction RefreshContract.default (fun _ => .ok 8) threeOracleSources 100
      walletAddress = .ok threeOracleRefresh := by
  simp only [buildRefreshAction, @filteredOracleBoxes_eq RefreshContract.default (by decide)]
  rfl

end RefreshRuns

section Survivors

variable {refreshContract : RefreshContract} {poolRate : List OracleBox → Refresh Nat}
  {sources : RefreshSources} {height : Nat} {changeAddress : Address} {action : RefreshAction}

theorem inputs_getElem_survivor {inPoolBox inRefreshBox : ErgoBox}
    {survivors : List OracleBox} {walletBoxes : List ErgoBox} {index : Nat}
    (inside : index < survivors.length) :
    ([inPoolBox, inRefreshBox] ++ survivors.map OracleBox.getBox ++ walletBoxes)[index + 2]? =
      some survivors[index].getBox := by
  rw [List.append_assoc, List.getElem?_append_right (by simp),
    List.getElem?_append_left (by simpa using inside)]
  simp [inside]

theorem outputs_getElem_survivor {outPoolBox outRefreshBox : ErgoBoxCandidate}
    {outOracleBoxes rest : List ErgoBoxCandidate} {index : Nat}
    (inside : index < outOracleBoxes.length) :
    ([outPoolBox, outRefreshBox] ++ outOracleBoxes ++ rest)[index + 2]? =
      some outOracleBoxes[index] := by
  rw [List.append_assoc, List.getElem?_append_right (by simp),
    List.getElem?_append_left (by simpa using inside)]
  simp [inside]

/-- `build_out_oracle_boxes` re-emits every survivor in order when no reward amount is at its
maximum, and in the refresh transaction the survivor spent at input `k + 2` and its
re-emitted box at output `k + 2` belong to the same oracle. -/
theorem buildOutOracleBoxes_aligned (survivors : List OracleBox)
    (below : ∀ inOb ∈ survivors, inOb.rewardToken.amount.raw < TokenAmount.MAX_RAW) :
    (∃ candidates, buildOutOracleBoxes survivors height = .ok candidates ∧
      List.Forall₂ (ReEmits height) survivors candidates) ∧
    (buildRefreshAction refreshContract poolRate sources height changeAddress = .ok action →
      ∃ used : List OracleBox,
        (∃ visible, sources.oracleDatapointBoxes = .ok visible ∧ used.Perm visible) ∧
        ∀ index (inside : index < used.length),
          action.tx.inputs[index + 2]? = some used[index].getBox ∧
          ∃ outBox, action.tx.outputCandidates[index + 2]? = some outBox ∧
            ReEmits height used[index] outBox) := by
  refine ⟨buildOutOracleBoxes_reEmits height below, fun built => ?_⟩
  obtain ⟨inPoolBox, inRefreshBox, visible, -, -, oracles, -, transaction⟩ :=
    buildRefreshAction_ok built
  obtain ⟨outPoolBox, outRefreshBox, outOracleBoxes, -, selection, changeTree, -, -, reEmitted,
    -, -, inputs, outputs, -⟩ := buildRefreshTransaction_ok transaction
  have pairs := (mapM_ok_forall₂ reEmitted).imp fun _ _ => buildOutOracleBox_reEmits
  refine ⟨sortByRate visible, ⟨visible, oracles, sortByRate_perm visible⟩,
    fun index inside => ⟨?_, ?_⟩⟩
  · rw [inputs, inputs_getElem_survivor inside]
  · have outside : index < outOracleBoxes.length := pairs.length_eq ▸ inside
    refine ⟨outOracleBoxes[index], ?_, pairs.get inside outside⟩
    rw [outputs, List.append_assoc, outputs_getElem_survivor outside]

/-- Three survivors, spent at inputs 2 to 4 in the order of their rates and re-emitted at
outputs 2 to 4. -/
theorem buildOutOracleBoxes_aligned_threeOracles :
    (∀ inOb ∈ sortByRate threeDatapointBoxes,
        inOb.rewardToken.amount.raw < TokenAmount.MAX_RAW) ∧
      buildRefreshAction RefreshContract.default (fun _ => .ok 8) threeOracleSources 100
        walletAddress = .ok threeOracleRefresh ∧
      rates (sortByRate threeDatapointBoxes) = [7, 8, 9] ∧
      (∃ candidates, buildOutOracleBoxes (sortByRate threeDatapointBoxes) 100 = .ok candidates ∧
        List.Forall₂ (ReEmits 100) (sortByRate threeDatapointBoxes) candidates) ∧
      ∃ used : List OracleBox,
        (∃ visible, threeOracleSources.oracleDatapointBoxes = .ok visible ∧ used.Perm visible) ∧
        ∀ index (inside : index < used.length),
          threeOracleRefresh.tx.inputs[index + 2]? = some used[index].getBox ∧
          ∃ outBox, threeOracleRefresh.tx.outputCandidates[index + 2]? = some outBox ∧
            ReEmits 100 used[index] outBox :=
  have below : ∀ inOb ∈ sortByRate threeDatapointBoxes,
      inOb.rewardToken.amount.raw < TokenAmount.MAX_RAW := by
    decide
  have aligned := buildOutOracleBoxes_aligned (sortByRate threeDatapointBoxes) below
  ⟨below, buildRefreshAction_threeOracles, rfl, aligned.1,
    aligned.2 buildRefreshAction_threeOracles⟩

end Survivors

theorem filteredOracleBoxes_nil (refreshContract : RefreshContract) :
    filteredOracleBoxes refreshContract [] = .error (.panic .indexOutOfBounds) :=
  filterLoop_of_check_error rfl

/-- When the datapoint stage sees no oracle box, `build_refresh_action` panics in
`deviation_check` before its count check is reached. -/
theorem buildRefreshAction_no_datapoints_panics (refreshContract : RefreshContract)
    (poolRate : List OracleBox → Refresh Nat) (inPoolBox inRefreshBox : ErgoBox)
    (unspentWalletBoxes : Except NodeError (List ErgoBox)) (height : Nat) (changeAddress : Address) :
    buildRefreshAction refreshContract poolRate
      ⟨.ok inPoolBox, .ok inRefreshBox, .ok [], unspentWalletBoxes⟩ height changeAddress =
      .error (.panic .indexOutOfBounds) := by
  simp [buildRefreshAction, filteredOracleBoxes_nil, bind, Except.bind]

section RewardTokens

/-- A re-emitted box holds the tokens of the box it re-emits and one more reward token. -/
theorem ReEmits.tokenAmount {height : Nat} {inBox : OracleBox} {outBox : ErgoBoxCandidate}
    (reEmits : ReEmits height inBox outBox) (id : TokenId) :
    tokenAmountOf id outBox.tokens =
      tokenAmountOf id inBox.getBox.tokens + if inBox.rewardToken.tokenId = id then 1 else 0 := by
  obtain ⟨reward, tokens, sameId, oneMore⟩ := reEmits.tokens_eq
  simp only [tokens, OracleBox.getBox, inBox.tokens_eq, tokenAmountOf_cons, tokenAmountOf_nil,
    sameId, oneMore]
  split_ifs <;> omega

end RewardTokens

end OracleCore
