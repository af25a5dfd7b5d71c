import OracleCore.Bootstrap.Chain

/-!
# The ERG budget of the bootstrap chain

Once `E_8` is a valid box value, every `E_i` with `1 ≤ i ≤ 8` is one as well,
so `calc_target_balance` never fails later in the chain.  Each transaction
keeps `E_i` in its outputs before the change (the fee included) and leaves its
remainder of `E_(i-1)` under the wallet's key, where the next step finds it;
the pool-box and refresh-box steps also find the NFT boxes they look up, and
among their inputs the NFT and reward tokens they ask for.  So the chain fails
only in ways its budget does not decide.
-/

namespace OracleCore

theorem mul_budget_step {left : Nat} (positive : 1 ≤ left) (perBox : Nat) :
    perBox + (left - 1) * perBox = left * perBox := by
  obtain ⟨k, rfl⟩ := Nat.exists_eq_add_of_le positive
  rw [Nat.add_sub_cancel_left]
  ring

/-- Every `E_i` below a valid `E_8` is valid and worth `i * (erg_value_per_box + tx_fee)`. -/
theorem calcTargetBalance_of_le {ergValuePerBox txFee e8 : BoxValue}
    (valid : calcTargetBalance ergValuePerBox txFee 8 = .ok e8) {left : Nat} (positive : 1 ≤ left)
    (atMost : left ≤ 8) :
    ∃ target, calcTargetBalance ergValuePerBox txFee left = .ok target ∧
      target.raw = left * (ergValuePerBox.raw + txFee.raw) := by
  obtain ⟨-, valueHigh, -, feeHigh, sumHigh, -⟩ := calcTargetBalance_eq_ok.mp valid
  have valueLow := ergValuePerBox.min_le
  have feeLow := txFee.min_le
  have valueBelow : ergValuePerBox.raw * left ≤ ergValuePerBox.raw * 8 :=
    Nat.mul_le_mul_left _ atMost
  have feeBelow : txFee.raw * left ≤ txFee.raw * 8 := Nat.mul_le_mul_left _ atMost
  have valueAbove : ergValuePerBox.raw ≤ ergValuePerBox.raw * left := Nat.le_mul_of_pos_right _ positive
  have feeAbove : txFee.raw ≤ txFee.raw * left := Nat.le_mul_of_pos_right _ positive
  have split : left * (ergValuePerBox.raw + txFee.raw) =
      ergValuePerBox.raw * left + txFee.raw * left := by ring
  exact ⟨⟨left * (ergValuePerBox.raw + txFee.raw), by omega, by omega⟩,
    calcTargetBalance_eq_ok.mpr ⟨by omega, by omega, by omega, by omega, by omega, rfl⟩, rfl⟩

section StepBudget

variable (ctx : ChainContext)

/-- A chain transaction made with `left` transactions left: the outputs it is built with,
before the change and the fee, are worth `E_left` with the fee; and when another transaction
follows, its second output is the remainder worth `E_(left-1)` under the wallet's key. -/
structure StepBudget (left : Nat) (tx : Transaction) : Prop where
  outputs_eq : ∃ (kept : List ErgoBoxCandidate) (changeTree : ErgoTree)
      (change : List ErgoBoxAssetsData),
    tx.outputs.map ErgoBox.toErgoBoxCandidate =
      kept ++ change.map (changeBox changeTree ctx.height) ++ [feeBox ctx.txFee ctx.height] ∧
    boxesValue kept + ctx.txFee.raw = left * (ctx.ergValuePerBox.raw + ctx.txFee.raw)
  remainder : 2 ≤ left → ∃ remainder, tx.outputs[1]? = some remainder ∧
    remainder ∈ filterTxOutputs ctx.walletPkErgoTree tx.outputs ∧
    remainder.value.raw = (left - 1) * (ctx.ergValuePerBox.raw + ctx.txFee.raw)

variable {ctx}

theorem outputs_head_of_map_eq {outputs : List ErgoBox} {first : ErgoBoxCandidate}
    {rest : List ErgoBoxCandidate} (mapped : outputs.map ErgoBox.toErgoBoxCandidate = first :: rest) :
    ∃ firstBox, outputs.head? = some firstBox ∧ firstBox.toErgoBoxCandidate = first := by
  obtain ⟨firstBox, _, rfl, same, -⟩ := List.map_eq_cons_iff.mp mapped
  exact ⟨firstBox, rfl, same⟩

theorem outputs_second_of_map_eq {outputs : List ErgoBox} {first second : ErgoBoxCandidate}
    {rest : List ErgoBoxCandidate}
    (mapped : outputs.map ErgoBox.toErgoBoxCandidate = first :: second :: rest) :
    ∃ secondBox, outputs[1]? = some secondBox ∧ secondBox.toErgoBoxCandidate = second := by
  obtain ⟨_, later, rfl, -, mappedLater⟩ := List.map_eq_cons_iff.mp mapped
  obtain ⟨secondBox, _, rfl, same, -⟩ := List.map_eq_cons_iff.mp mappedLater
  exact ⟨secondBox, by simp, same⟩

/-- The budget of a step whose outputs are a box of `erg_value_per_box` and the remainder. -/
theorem stepBudget_of_outputs {left : Nat} {tx : Transaction} {first : ErgoBoxCandidate}
    {remainingFunds : BoxValue} {changeTree : ErgoTree} {change : List ErgoBoxAssetsData}
    (positive : 1 ≤ left) (firstValue : first.value = ctx.ergValuePerBox)
    (remaining : remainingFunds.raw = (left - 1) * (ctx.ergValuePerBox.raw + ctx.txFee.raw))
    (outputs : tx.outputs.map ErgoBox.toErgoBoxCandidate =
      [first, remainingFundsBox ctx remainingFunds] ++
        change.map (changeBox changeTree ctx.height) ++ [feeBox ctx.txFee ctx.height]) :
    StepBudget ctx left tx := by
  refine ⟨⟨_, changeTree, change, outputs, ?_⟩, fun _ => ?_⟩
  · have step := mul_budget_step positive (ctx.ergValuePerBox.raw + ctx.txFee.raw)
    simp only [boxesValue_cons, boxesValue_nil, firstValue, remainingFundsBox,
      ErgoBoxCandidateBuilder.new, ErgoBoxCandidateBuilder.build, remaining]
    omega
  · obtain ⟨remainder, second, same⟩ := outputs_second_of_map_eq outputs
    refine ⟨remainder, second, List.mem_filter.mpr ⟨List.getElem?_mem second, ?_⟩, ?_⟩
    · simp [same, remainingFundsBox, ErgoBoxCandidateBuilder.new,
        ErgoBoxCandidateBuilder.build]
    · show remainder.toErgoBoxCandidate.value.raw = _
      rw [same, ← remaining]
      rfl

/-- The budget of the last step, whose one output is a box of `erg_value_per_box`. -/
theorem stepBudget_last {tx : Transaction} {first : ErgoBoxCandidate} {changeTree : ErgoTree}
    {change : List ErgoBoxAssetsData} (firstValue : first.value = ctx.ergValuePerBox)
    (outputs : tx.outputs.map ErgoBox.toErgoBoxCandidate =
      [first] ++ change.map (changeBox changeTree ctx.height) ++ [feeBox ctx.txFee ctx.height]) :
    StepBudget ctx 1 tx :=
  ⟨⟨[first], changeTree, change, outputs, by simp [firstValue]⟩, by omega⟩

theorem StepBudget.funded {left : Nat} {tx : Transaction} (budget : StepBudget ctx left tx)
    (twoLeft : 2 ≤ left) :
    (left - 1) * (ctx.ergValuePerBox.raw + ctx.txFee.raw) ≤
      boxValue (filterTxOutputs ctx.walletPkErgoTree tx.outputs) := by
  obtain ⟨remainder, -, member, value⟩ := budget.remainder twoLeft
  exact value ▸ value_le_boxValue member

theorem remainingFunds_raw {left : Nat} {remainingFunds : BoxValue}
    (remaining : calcTargetBalance ctx.ergValuePerBox ctx.txFee (left - 1) = .ok remainingFunds) :
    remainingFunds.raw = (left - 1) * (ctx.ergValuePerBox.raw + ctx.txFee.raw) :=
  (calcTargetBalance_eq_ok.mp remaining).2.2.2.2.2

/-- A minting transaction keeps its budget, and its first output is the token box. -/
theorem mintToken_budget {inputBoxes : List ErgoBox} {left : Nat} {tokenName tokenDesc : String}
    {tokenAmount : TokenAmount} {guard : Option ErgoTree} {token : Token} {tx : Transaction}
    {left' : Nat}
    (minted : mintToken ctx inputBoxes left tokenName tokenDesc tokenAmount guard =
      .ok (token, tx, left')) :
    StepBudget ctx left tx ∧ ∃ tokenBox, tx.outputs.head? = some tokenBox ∧
      tokenBox.toErgoBoxCandidate = mintedTokenBox ctx token tokenName tokenDesc guard := by
  obtain ⟨_, _, _, _, -, remaining, positive, -, -, -, -, -, outputs⟩ := mintToken_ok minted
  exact ⟨stepBudget_of_outputs positive rfl (remainingFunds_raw remaining) outputs,
    outputs_head_of_map_eq outputs⟩

theorem createPoolBox_budget {contracts : BootstrapContracts} {tokenIds : TokenIds}
    {poolNftToken oracleToken rewardToken : Token}
    {signedMintPoolNftTx signedMintRewardTokensTx tx : Transaction} {left left' : Nat}
    (created : createPoolBox ctx contracts tokenIds poolNftToken oracleToken rewardToken
      signedMintPoolNftTx signedMintRewardTokensTx left = .ok (tx, left')) :
    StepBudget ctx left tx := by
  obtain ⟨_, _, _, _, _, _, _, -, -, remaining, positive, -, -, -, -, -, -, outputs⟩ :=
    createPoolBox_ok created
  exact stepBudget_of_outputs positive rfl (remainingFunds_raw remaining) outputs

theorem createRefreshBox_budget {contracts : BootstrapContracts} {tokenIds : TokenIds}
    {refreshNftToken : Token} {signedMintRefreshNftTx signedPoolBoxTx tx : Transaction}
    (created : createRefreshBox ctx contracts tokenIds refreshNftToken signedMintRefreshNftTx
      signedPoolBoxTx 1 = .ok tx) :
    StepBudget ctx 1 tx := by
  obtain ⟨_, _, _, _, _, -, -, -, -, -, -, outputs⟩ := createRefreshBox_ok created
  exact stepBudget_last rfl outputs

variable (ctx)

/-- What every step of the chain keeps once it returns, whether or not the steps after it
succeed: it was called with at least one transaction left, it hands on one fewer, and its
transaction keeps the budget of its step. -/
structure StepsKeepBudget : Prop where
  mintToken_step : ∀ {inputBoxes left tokenName tokenDesc tokenAmount guard token tx left'},
    mintToken ctx inputBoxes left tokenName tokenDesc tokenAmount guard =
        .ok (token, tx, left') →
      1 ≤ left ∧ left' = left - 1 ∧ StepBudget ctx left tx
  createPoolBox_step : ∀ {contracts tokenIds poolNftToken oracleToken rewardToken
      signedMintPoolNftTx signedMintRewardTokensTx left tx left'},
    createPoolBox ctx contracts tokenIds poolNftToken oracleToken rewardToken signedMintPoolNftTx
        signedMintRewardTokensTx left = .ok (tx, left') →
      1 ≤ left ∧ left' = left - 1 ∧ StepBudget ctx left tx
  createRefreshBox_step : ∀ {contracts tokenIds refreshNftToken signedMintRefreshNftTx
      signedPoolBoxTx tx},
    createRefreshBox ctx contracts tokenIds refreshNftToken signedMintRefreshNftTx
        signedPoolBoxTx 1 = .ok tx →
      StepBudget ctx 1 tx

theorem stepsKeepBudget : StepsKeepBudget ctx where
  mintToken_step minted := by
    obtain ⟨_, _, _, _, -, -, positive, decremented, -⟩ := mintToken_ok minted
    exact ⟨positive, decremented, (mintToken_budget minted).1⟩
  createPoolBox_step created := by
    obtain ⟨_, _, _, _, _, _, _, -, -, -, positive, decremented, -⟩ := createPoolBox_ok created
    exact ⟨positive, decremented, createPoolBox_budget created⟩
  createRefreshBox_step := createRefreshBox_budget

end StepBudget

/-- A failure the chain's budget does not decide: anything but a `BoxValue` error, a selection
short of ERG or of a token, an underflow of `num_transactions_left`, and a lookup of an NFT box
that finds none. -/
def OutsideBudget : Fault BootstrapError → Prop
  | .error (.boxValue _) => False
  | .error (.boxSelector (.notEnoughCoins _)) => False
  | .error (.boxSelector .notEnoughTokens) => False
  | .panic .arithmeticOverflow => False
  | .panic .unwrapNone => False
  | _ => True

section Safety

variable {ctx : ChainContext}

theorem buildAndSign_outsideBudget (boxSelection : BoxSelection)
    (outputCandidates : List ErgoBoxCandidate) :
    FailsOnly OutsideBudget (buildAndSign ctx boxSelection outputCandidates) :=
  .bind (.lift fun _ => trivial) fun _ _ => .bind (.lift fun _ => trivial) fun _ _ => .of_ok _

/-- A selection among boxes holding the target's value and tokens fails only outside the
budget. -/
theorem select_outsideBudget {inputs : List ErgoBox} {targetBalance : BoxValue}
    {targetTokens : List Token} (funded : targetBalance.raw ≤ boxValue inputs)
    (covered : coversTokens targetTokens (boxTokens inputs) = true) :
    FailsOnly OutsideBudget
      (lift .boxSelector (SimpleBoxSelector.select inputs targetBalance targetTokens)) := by
  intro fault failed
  cases selected : SimpleBoxSelector.select inputs targetBalance targetTokens with
  | error reason =>
      rw [selected] at failed
      cases failed
      obtain ⟨notCoins, notTokens⟩ := select_not_short funded covered selected
      cases reason with
      | notEnoughCoins missing => exact notCoins missing rfl
      | notEnoughTokens => exact notTokens rfl
      | _ => trivial
  | ok selection => rw [selected] at failed; cases failed

variable (ctx) {eightLeft : BoxValue}

/-- With `E_8` valid, a minting step with two to eight transactions left whose inputs hold
`E_left` fails only outside the budget. -/
theorem mintToken_outsideBudget
    (valid : calcTargetBalance ctx.ergValuePerBox ctx.txFee 8 = .ok eightLeft)
    {inputBoxes : List ErgoBox} {left : Nat} (twoLeft : 2 ≤ left) (atMost : left ≤ 8)
    (funded : left * (ctx.ergValuePerBox.raw + ctx.txFee.raw) ≤ boxValue inputBoxes)
    (tokenName tokenDesc : String) (tokenAmount : TokenAmount) (guard : Option ErgoTree) :
    FailsOnly OutsideBudget (mintToken ctx inputBoxes left tokenName tokenDesc tokenAmount guard) := by
  obtain ⟨target, targetOk, targetRaw⟩ := calcTargetBalance_of_le valid (by omega) atMost
  obtain ⟨remaining, remainingOk, -⟩ :=
    calcTargetBalance_of_le valid (by omega : 1 ≤ left - 1) (by omega)
  refine .bind (.of_eq_ok (lift_eq_ok.mpr targetOk)) fun targetBalance targeted => ?_
  obtain rfl := Except.ok.inj ((lift_eq_ok.mp targeted).symm.trans targetOk)
  refine .bind (select_outsideBudget (by omega) rfl) fun boxSelection _ => ?_
  refine .bind (.of_eq_ok (checkedSub_of_le (by omega))) fun _ decremented => ?_
  obtain ⟨-, rfl⟩ := checkedSub_eq_ok.mp decremented
  refine .bind (.of_eq_ok (lift_eq_ok.mpr remainingOk)) fun _ _ => ?_
  exact .bind (buildAndSign_outsideBudget _ _) fun _ _ =>
    .bind (.of_eq_ok (checkedSub_of_le (by omega))) fun _ _ => .of_ok _

/-- With `E_8` valid, the pool-box step fails only outside the budget when `find` returns a
pool NFT box and the reward-token transaction's outputs under the wallet's key hold `E_left`
and, with that box, the pool NFT and the reward tokens. -/
theorem createPoolBox_outsideBudget
    (valid : calcTargetBalance ctx.ergValuePerBox ctx.txFee 8 = .ok eightLeft)
    {contracts : BootstrapContracts} {tokenIds : TokenIds}
    {poolNftToken oracleToken rewardToken : Token}
    {signedMintPoolNftTx signedMintRewardTokensTx : Transaction} {left : Nat}
    (twoLeft : 2 ≤ left) (atMost : left ≤ 8)
    (funded : left * (ctx.ergValuePerBox.raw + ctx.txFee.raw) ≤
      boxValue (filterTxOutputs ctx.walletPkErgoTree signedMintRewardTokensTx.outputs))
    {poolNftBox : ErgoBox}
    (found : findTokenBox poolNftToken.tokenId signedMintPoolNftTx.outputs = some poolNftBox)
    (covered : coversTokens [poolNftToken, rewardToken] (boxTokens (filterTxOutputs
      ctx.walletPkErgoTree signedMintRewardTokensTx.outputs ++ [poolNftBox])) = true) :
    FailsOnly OutsideBudget (createPoolBox ctx contracts tokenIds poolNftToken oracleToken
      rewardToken signedMintPoolNftTx signedMintRewardTokensTx left) := by
  obtain ⟨target, targetOk, targetRaw⟩ := calcTargetBalance_of_le valid (by omega) atMost
  obtain ⟨remaining, remainingOk, -⟩ :=
    calcTargetBalance_of_le valid (by omega : 1 ≤ left - 1) (by omega)
  refine .bind (.unwrap trivial) fun _ _ => .bind (.unwrap trivial) fun _ _ => ?_
  refine .bind (.of_eq_ok (checkedSub_of_le (by omega))) fun _ decremented => ?_
  obtain ⟨-, rfl⟩ := checkedSub_eq_ok.mp decremented
  refine .bind (.of_eq_ok (lift_eq_ok.mpr remainingOk)) fun _ _ => ?_
  refine .bind (.of_eq_ok (lift_eq_ok.mpr targetOk)) fun targetBalance targeted => ?_
  obtain rfl := Except.ok.inj ((lift_eq_ok.mp targeted).symm.trans targetOk)
  refine .bind (.of_eq_ok (unwrapSome_eq_ok.mpr found)) fun box unwrapped => ?_
  obtain rfl := Option.some.inj (found.symm.trans (unwrapSome_eq_ok.mp unwrapped))
  refine .bind (select_outsideBudget ?_ covered)
    fun _ _ => .bind (buildAndSign_outsideBudget _ _) fun _ _ =>
      .bind (.of_eq_ok (checkedSub_of_le (by omega))) fun _ _ => .of_ok _
  rw [boxValue_append]
  omega

/-- With `E_8` valid, the refresh-box step fails only outside the budget when `find` returns a
refresh NFT box and the pool-box transaction's outputs under the wallet's key hold `E_left`
and, with that box, the refresh NFT. -/
theorem createRefreshBox_outsideBudget
    (valid : calcTargetBalance ctx.ergValuePerBox ctx.txFee 8 = .ok eightLeft)
    {contracts : BootstrapContracts} {tokenIds : TokenIds} {refreshNftToken : Token}
    {signedMintRefreshNftTx signedPoolBoxTx : Transaction} {left : Nat}
    (positive : 1 ≤ left) (atMost : left ≤ 8)
    (funded : left * (ctx.ergValuePerBox.raw + ctx.txFee.raw) ≤
      boxValue (filterTxOutputs ctx.walletPkErgoTree signedPoolBoxTx.outputs))
    {refreshNftBox : ErgoBox}
    (found : findTokenBox refreshNftToken.tokenId signedMintRefreshNftTx.outputs =
      some refreshNftBox)
    (covered : coversTokens [refreshNftToken] (boxTokens (filterTxOutputs ctx.walletPkErgoTree
      signedPoolBoxTx.outputs ++ [refreshNftBox])) = true) :
    FailsOnly OutsideBudget (createRefreshBox ctx contracts tokenIds refreshNftToken
      signedMintRefreshNftTx signedPoolBoxTx left) := by
  obtain ⟨target, targetOk, targetRaw⟩ := calcTargetBalance_of_le valid positive atMost
  refine .bind (.lift fun _ => trivial) fun _ _ => ?_
  refine .bind (.of_eq_ok (lift_eq_ok.mpr targetOk)) fun targetBalance targeted => ?_
  obtain rfl := Except.ok.inj ((lift_eq_ok.mp targeted).symm.trans targetOk)
  refine .bind (.of_eq_ok (unwrapSome_eq_ok.mpr found)) fun box unwrapped => ?_
  obtain rfl := Option.some.inj (found.symm.trans (unwrapSome_eq_ok.mp unwrapped))
  refine .bind (select_outsideBudget ?_ covered) fun _ _ => buildAndSign_outsideBudget _ _
  rw [boxValue_append]
  omega

end Safety

/-- The token coverage of the pool-box step: the reward-token box under the wallet's key and
the pool NFT box that `find` returns. -/
theorem poolBox_covered {ctx : ChainContext} {poolNftToken rewardToken : Token}
    {signedMintRewardTokensTx : Transaction} {poolNftBox rewardBox : ErgoBox}
    (poolNftHeld : poolNftBox.tokens = [poolNftToken])
    (rewardFirst : signedMintRewardTokensTx.outputs.head? = some rewardBox)
    (rewardHeld : rewardBox.tokens = [rewardToken])
    (rewardGuarded : rewardBox.ergoTree = ctx.walletPkErgoTree) :
    coversTokens [poolNftToken, rewardToken] (boxTokens (filterTxOutputs ctx.walletPkErgoTree
      signedMintRewardTokensTx.outputs ++ [poolNftBox])) = true := by
  have member := head_mem_filterTxOutputs rewardFirst rewardGuarded
  refine coversTokens_of_sublist ((List.singleton_sublist.mpr member).append
    (List.Sublist.refl [poolNftBox])) ?_
  simp only [List.singleton_append, boxTokens_cons, boxTokens_nil, rewardHeld, poolNftHeld,
    List.singleton_append, List.append_nil]
  exact List.Perm.swap _ _ _

theorem refreshBox_covered {ctx : ChainContext} {refreshNftToken : Token}
    {signedPoolBoxTx : Transaction} {refreshNftBox : ErgoBox}
    (refreshNftHeld : refreshNftBox.tokens = [refreshNftToken]) :
    coversTokens [refreshNftToken] (boxTokens (filterTxOutputs ctx.walletPkErgoTree
      signedPoolBoxTx.outputs ++ [refreshNftBox])) = true := by
  refine coversTokens_of_sublist (List.sublist_append_right _ [refreshNftBox]) ?_
  simp [refreshNftHeld]

/-- Once `E_8` is valid and the wallet's sweep for it succeeded, building the chain fails only
outside the budget: each step finds `E_i` and the tokens it asks for among its inputs. -/
theorem buildSignedChain_outsideBudget {input : BootstrapInput} {eightLeft : BoxValue}
    {unspentBoxes : List ErgoBox} {sweep : BoxSelection}
    (valid : calcTargetBalance input.ergValuePerBox input.txFee 8 = .ok eightLeft)
    (wallet : input.wallet = .ok unspentBoxes)
    (swept : SimpleBoxSelector.select unspentBoxes eightLeft [] = .ok sweep) :
    FailsOnly OutsideBudget (buildSignedChain input) := by
  have eightRaw := (calcTargetBalance_eq_ok.mp valid).2.2.2.2.2
  refine .bind (.lift fun _ => trivial) fun walletPkErgoTree _ => ?_
  refine .bind (.of_eq_ok (lift_eq_ok.mpr wallet)) fun _ fetched => ?_
  obtain rfl := Except.ok.inj (wallet.symm.trans (lift_eq_ok.mp fetched))
  refine .bind (.of_eq_ok (lift_eq_ok.mpr valid)) fun _ targeted => ?_
  obtain rfl := Except.ok.inj (valid.symm.trans (lift_eq_ok.mp targeted))
  refine .bind (.of_eq_ok (lift_eq_ok.mpr swept)) fun _ selected => ?_
  obtain rfl := Except.ok.inj (swept.symm.trans (lift_eq_ok.mp selected))
  have sweepFunded : 8 * (input.ergValuePerBox.raw + input.txFee.raw) ≤ boxValue sweep.boxes :=
    eightRaw ▸ select_funded swept
  refine .bind (mintToken_outsideBudget (input.chainContext walletPkErgoTree) valid (by omega) le_rfl sweepFunded _ _ _ _)
    fun minted poolNft => ?_
  obtain ⟨poolNftToken, mintPoolNftTx, left⟩ := minted
  obtain rfl := mintToken_left poolNft
  obtain ⟨poolNftBudget, poolNftBox, poolNftFirst, poolNftBoxEq⟩ := mintToken_budget poolNft
  refine .bind (mintToken_outsideBudget (input.chainContext walletPkErgoTree) valid (by omega) (by omega)
    (poolNftBudget.funded (by omega)) _ _ _ _) fun minted refreshNft => ?_
  obtain ⟨refreshNftToken, mintRefreshNftTx, left⟩ := minted
  obtain rfl := mintToken_left refreshNft
  obtain ⟨refreshNftBudget, refreshNftBox, refreshNftFirst, refreshNftBoxEq⟩ :=
    mintToken_budget refreshNft
  refine .bind (.unwrap trivial) fun _ _ => ?_
  refine .bind (mintToken_outsideBudget (input.chainContext walletPkErgoTree) valid (by omega) (by omega)
    (refreshNftBudget.funded (by omega)) _ _ _ _) fun minted ballot => ?_
  obtain ⟨ballotToken, mintBallotTx, left⟩ := minted
  obtain rfl := mintToken_left ballot
  obtain ⟨ballotBudget, -⟩ := mintToken_budget ballot
  refine .bind (.lift fun _ => trivial) fun _ _ => ?_
  refine .bind (mintToken_outsideBudget (input.chainContext walletPkErgoTree) valid (by omega) (by omega)
    (ballotBudget.funded (by omega)) _ _ _ _) fun minted updateNft => ?_
  obtain ⟨updateNftToken, mintUpdateNftTx, left⟩ := minted
  obtain rfl := mintToken_left updateNft
  obtain ⟨updateNftBudget, -⟩ := mintToken_budget updateNft
  refine .bind (.lift fun _ => trivial) fun _ _ => .bind (.unwrap trivial) fun _ _ => ?_
  refine .bind (mintToken_outsideBudget (input.chainContext walletPkErgoTree) valid (by omega) (by omega)
    (updateNftBudget.funded (by omega)) _ _ _ _) fun minted oracle => ?_
  obtain ⟨oracleToken, mintOracleTx, left⟩ := minted
  obtain rfl := mintToken_left oracle
  obtain ⟨oracleBudget, -⟩ := mintToken_budget oracle
  refine .bind (.unwrap trivial) fun _ _ => ?_
  refine .bind (mintToken_outsideBudget (input.chainContext walletPkErgoTree) valid (by omega) (by omega)
    (oracleBudget.funded (by omega)) _ _ _ _) fun minted reward => ?_
  obtain ⟨rewardToken, mintRewardTx, left⟩ := minted
  obtain rfl := mintToken_left reward
  obtain ⟨rewardBudget, rewardBox, rewardFirst, rewardBoxEq⟩ := mintToken_budget reward
  have poolNftHeld := (ErgoBox.eq_mintedTokenBox poolNftBoxEq).1
  have refreshNftHeld := (ErgoBox.eq_mintedTokenBox refreshNftBoxEq).1
  refine .bind (createPoolBox_outsideBudget (input.chainContext walletPkErgoTree) valid
    (by omega) (by omega) (rewardBudget.funded (by omega))
    (findTokenBox_of_head poolNftFirst poolNftHeld) (poolBox_covered poolNftHeld rewardFirst
      (ErgoBox.eq_mintedTokenBox rewardBoxEq).1 (ErgoBox.eq_mintedTokenBox rewardBoxEq).2))
    fun created pool => ?_
  obtain ⟨poolBoxTx, left⟩ := created
  obtain ⟨_, _, _, _, _, _, _, -, -, -, -, rfl, -⟩ := createPoolBox_ok pool
  exact .bind (createRefreshBox_outsideBudget (input.chainContext walletPkErgoTree) valid
    (by omega) (by omega) ((createPoolBox_budget pool).funded (by omega))
    (findTokenBox_of_head refreshNftFirst refreshNftHeld) (refreshBox_covered refreshNftHeld))
    fun _ _ => .of_ok _

/-- Each built transaction keeps the budget of its step, with eight to one transactions left. -/
theorem buildSignedChain_stepBudgets {input : BootstrapInput} {chain : SignedChain}
    (built : buildSignedChain input = .ok chain) :
    ∃ walletPkErgoTree,
      input.config.addresses.walletAddressForChainTransaction.script = .ok walletPkErgoTree ∧
      List.Forall₂ (StepBudget (input.chainContext walletPkErgoTree)) [8, 7, 6, 5, 4, 3, 2, 1]
        chain.transactions := by
  obtain ⟨walletPkErgoTree, _, _, _, _, _, _, _, _, script, -, -, -, poolNft, refreshNft, -,
    ballot, -, updateNft, -, -, oracle, -, reward, pool, refresh⟩ := buildSignedChain_ok built
  exact ⟨walletPkErgoTree, script, .cons (mintToken_budget poolNft).1 <|
    .cons (mintToken_budget refreshNft).1 <| .cons (mintToken_budget ballot).1 <|
    .cons (mintToken_budget updateNft).1 <| .cons (mintToken_budget oracle).1 <|
    .cons (mintToken_budget reward).1 <| .cons (createPoolBox_budget pool) <|
    .cons (createRefreshBox_budget refresh) .nil⟩

theorem performBootstrapChainedTransaction_failsOnly {allowed : Fault BootstrapError → Prop}
    {input : BootstrapInput} (building : FailsOnly allowed (buildSignedChain input))
    (submitting : ∀ e, allowed (.error (.node e))) :
    FailsOnly allowed (performBootstrapChainedTransaction input).2 := by
  intro fault failed
  unfold performBootstrapChainedTransaction at failed
  split at failed
  · next fault' built =>
      cases failed
      exact building _ built
  · split at failed
    · cases failed; exact submitting _
    · cases failed

/-- With `E_8` a valid box value and the wallet's sweep for it made, every `E_i` with
`1 ≤ i ≤ 8` is valid and worth `i * (erg_value_per_box + tx_fee)`, the run fails only in ways
the budget does not decide, every step the run completes keeps the budget of its step, and a
built chain does so with eight to one transactions left. -/
theorem performBootstrapChainedTransaction_budget {input : BootstrapInput}
    {eightLeft : BoxValue} {unspentBoxes : List ErgoBox} {sweep : BoxSelection}
    (valid : calcTargetBalance input.ergValuePerBox input.txFee 8 = .ok eightLeft)
    (wallet : input.wallet = .ok unspentBoxes)
    (swept : SimpleBoxSelector.select unspentBoxes eightLeft [] = .ok sweep) :
    (∀ left, 1 ≤ left → left ≤ 8 → ∃ target,
      calcTargetBalance input.ergValuePerBox input.txFee left = .ok target ∧
        target.raw = left * (input.ergValuePerBox.raw + input.txFee.raw)) ∧
    FailsOnly OutsideBudget (performBootstrapChainedTransaction input).2 ∧
    (∀ walletPkErgoTree, StepsKeepBudget (input.chainContext walletPkErgoTree)) ∧
    ∀ chain, buildSignedChain input = .ok chain → ∃ walletPkErgoTree,
      input.config.addresses.walletAddressForChainTransaction.script = .ok walletPkErgoTree ∧
      List.Forall₂ (StepBudget (input.chainContext walletPkErgoTree)) [8, 7, 6, 5, 4, 3, 2, 1]
        chain.transactions :=
  ⟨fun _ positive atMost => calcTargetBalance_of_le valid positive atMost,
    performBootstrapChainedTransaction_failsOnly (buildSignedChain_outsideBudget valid wallet swept)
      fun _ => trivial,
    fun _ => stepsKeepBudget _, fun _ built => buildSignedChain_stepBudgets built⟩

/-- The test run builds its chain, and each of its eight transactions keeps its budget. -/
theorem performBootstrapChainedTransaction_budget_testBootstrap :
    ∃ eightLeft sweep chain,
      calcTargetBalance testBootstrapInput.ergValuePerBox testBootstrapInput.txFee 8 =
        .ok eightLeft ∧
      testBootstrapInput.wallet = .ok [testWalletBox] ∧
      SimpleBoxSelector.select [testWalletBox] eightLeft [] = .ok sweep ∧
      buildSignedChain testBootstrapInput = .ok chain ∧
      (∀ left, 1 ≤ left → left ≤ 8 → ∃ target,
        calcTargetBalance testBootstrapInput.ergValuePerBox testBootstrapInput.txFee left =
          .ok target ∧
          target.raw = left * (testBootstrapInput.ergValuePerBox.raw + testBootstrapInput.txFee.raw)) ∧
      FailsOnly OutsideBudget (performBootstrapChainedTransaction testBootstrapInput).2 ∧
      (∀ walletPkErgoTree, StepsKeepBudget (testBootstrapInput.chainContext walletPkErgoTree)) ∧
      ∃ walletPkErgoTree,
        testBootstrapInput.config.addresses.walletAddressForChainTransaction.script =
          .ok walletPkErgoTree ∧
        List.Forall₂ (StepBudget (testBootstrapInput.chainContext walletPkErgoTree))
          [8, 7, 6, 5, 4, 3, 2, 1] chain.transactions :=
  have budget := @performBootstrapChainedTransaction_budget testBootstrapInput _ _ _ rfl rfl rfl
  ⟨_, _, _, rfl, rfl, rfl, rfl, budget.1, budget.2.1, budget.2.2.1, budget.2.2.2 _ rfl⟩

end OracleCore
