import OracleCore.Refresh.Action

/-!
# What a refresh transaction spends and creates

The refresh transaction spends the pool box, the refresh box, the survivors
and the wallet's selection for the fee; it creates the new pool box and the new
refresh box with the values of the old ones, one re-emitted box per survivor
with the survivor's value, the selection's change and the fee box.  So it
creates exactly the nanoERG it spends.  Per token id, the refresh box gives
`2 * |S|` of its reward token and each survivor's box receives one unit of its
own reward token; every other unit stays where it was.
-/

namespace OracleCore

section OutBoxes

variable {height : Nat}

theorem buildOutPoolBox_value {inPoolBox : ErgoBox} {rate : Nat}
    {outPoolBox : ErgoBoxCandidate}
    (built : buildOutPoolBox inPoolBox height rate = .ok outPoolBox) :
    outPoolBox.value = inPoolBox.value := by
  unfold buildOutPoolBox at built
  split at built
  · cases built; rfl
  · cases built

/-- A new refresh box is built only from a refresh box of two tokens, and keeps its value. -/
theorem buildOutRefreshBox_ok {inRefreshBox : ErgoBox} {rewardDecrement : Nat}
    {outRefreshBox : ErgoBoxCandidate}
    (built : buildOutRefreshBox inRefreshBox height rewardDecrement = .ok outRefreshBox) :
    (∃ refreshNft reward, inRefreshBox.tokens = [refreshNft, reward]) ∧
      outRefreshBox.value = inRefreshBox.value := by
  unfold buildOutRefreshBox at built
  split at built
  · next refreshNft reward tokens =>
      split at built
      · cases built
        exact ⟨⟨refreshNft, reward, tokens⟩, rfl⟩
      · cases built
  · cases built

theorem reEmitted_boxesValue {survivors : List OracleBox} {outOracleBoxes : List ErgoBoxCandidate}
    (pairs : List.Forall₂ (ReEmits height) survivors outOracleBoxes) :
    boxesValue outOracleBoxes = boxValue (survivors.map OracleBox.getBox) := by
  induction pairs with
  | nil => rfl
  | cons reEmits _ induction =>
      simp only [List.map_cons, boxesValue_cons, boxValue_cons, induction, reEmits.value_eq]
      rfl

end OutBoxes

section Refresh

variable {refreshContract : RefreshContract} {poolRate : List OracleBox → Refresh Nat}
  {sources : RefreshSources} {height : Nat} {changeAddress : Address} {action : RefreshAction}

/-- The assembled refresh transaction creates exactly the nanoERG it spends. -/
theorem buildRefreshTransaction_value {inPoolBox inRefreshBox : ErgoBox}
    {survivors : List OracleBox}
    (transaction : buildRefreshTransaction poolRate sources inPoolBox inRefreshBox survivors
      height changeAddress = .ok action) :
    boxesValue action.tx.outputCandidates = boxValue action.tx.inputs := by
  obtain ⟨_, _, _, _, selection, changeTree, ⟨_, -, pool⟩, refreshed, reEmitted, -, selected,
    inputs, outputs, -⟩ := buildRefreshTransaction_ok transaction
  have pairs := (mapM_ok_forall₂ reEmitted).imp fun _ _ => buildOutOracleBox_reEmits
  rw [inputs, outputs]
  refine value_balance changeTree height BoxValue.SAFE_USER_MIN selected _ ?_
  simp only [boxesValue_append, boxesValue_cons, boxesValue_nil, boxValue_append, boxValue_cons,
    boxValue_nil, buildOutPoolBox_value pool, (buildOutRefreshBox_ok refreshed).2,
    reEmitted_boxesValue pairs]

/-- A refresh transaction creates exactly the nanoERG it spends: the pool, refresh and oracle
boxes keep their values and the wallet's selection pays the fee and takes back its change. -/
theorem buildRefreshAction_value_conserved
    (built : buildRefreshAction refreshContract poolRate sources height changeAddress =
      .ok action) :
    boxesValue action.tx.outputCandidates = boxValue action.tx.inputs := by
  obtain ⟨_, _, _, -, -, -, -, transaction⟩ := buildRefreshAction_ok built
  exact buildRefreshTransaction_value transaction

theorem buildRefreshAction_value_conserved_staleOracle :
    buildRefreshAction RefreshContract.default (fun _ => .ok 7) (oneOracleSources 0) 100
        walletAddress = .ok (oneOracleRefresh 0) ∧
      boxesValue (oneOracleRefresh 0).tx.outputCandidates =
        boxValue (oneOracleRefresh 0).tx.inputs :=
  ⟨buildRefreshAction_staleOracle,
    buildRefreshAction_value_conserved buildRefreshAction_staleOracle⟩

end Refresh

end OracleCore
