import OracleCore.Bootstrap.Chain

/-!
# Submitting the bootstrap chain

`perform_bootstrap_chained_transaction` builds and signs all eight transactions
before it submits the first, then submits them in order and stops at the first
one the node refuses.  So the node sees a prefix of the chain, nothing at all
when building failed, and the run succeeds exactly when the node took every
transaction.
-/

namespace OracleCore

/-- The node accepts each of `txs` in turn, after `submitted` and the ones before it. -/
def AcceptsAll (submitTx : List Transaction → Transaction → Except NodeError String) :
    List Transaction → List Transaction → Prop
  | _, [] => True
  | submitted, tx :: rest =>
    (∃ txId, submitTx submitted tx = .ok txId) ∧ AcceptsAll submitTx (submitted ++ [tx]) rest

/-- The submission loop passes on a prefix of its transactions, at least the first, and
reports success exactly when the node accepted all of them. -/
theorem submitTransactions_spec (submitTx : List Transaction → Transaction → Except NodeError String)
    (submitted txs : List Transaction) :
    ∃ passed, passed <+: txs ∧ (txs ≠ [] → passed ≠ []) ∧
      (submitTransactions submitTx submitted txs).1 = submitted ++ passed ∧
      ((submitTransactions submitTx submitted txs).2 = .ok () ↔
        passed = txs ∧ AcceptsAll submitTx submitted txs) := by
  induction txs generalizing submitted with
  | nil => exact ⟨[], List.nil_prefix, absurd rfl, by simp [submitTransactions],
      by simp [submitTransactions, AcceptsAll]⟩
  | cons tx rest induction =>
      cases accepted : submitTx submitted tx with
      | error e =>
          exact ⟨[tx], ⟨rest, rfl⟩, fun _ => List.cons_ne_nil _ _,
            by simp [submitTransactions, accepted], by simp [submitTransactions, accepted, AcceptsAll]⟩
      | ok txId =>
          obtain ⟨passed, isPrefix, -, walked, succeeded⟩ := induction (submitted ++ [tx])
          refine ⟨tx :: passed, List.cons_prefix_cons.mpr ⟨rfl, isPrefix⟩,
            fun _ => List.cons_ne_nil _ _, ?_, ?_⟩
          · simp [submitTransactions, accepted, walked]
          · simp [submitTransactions, accepted, AcceptsAll, succeeded]

section Perform

variable {input : BootstrapInput}

theorem performBootstrapChainedTransaction_of_error {fault : Fault BootstrapError}
    (failed : buildSignedChain input = .error fault) :
    performBootstrapChainedTransaction input = ([], .error fault) := by
  rw [performBootstrapChainedTransaction, failed]

/-- Once the chain is built, the run is its submission loop from nothing submitted. -/
theorem performBootstrapChainedTransaction_of_built {chain : SignedChain}
    (built : buildSignedChain input = .ok chain) :
    (performBootstrapChainedTransaction input).1 =
        (submitTransactions input.submitTx [] chain.transactions).1 ∧
      ((∃ fields, (performBootstrapChainedTransaction input).2 = .ok fields) ↔
        (submitTransactions input.submitTx [] chain.transactions).2 = .ok ()) := by
  rw [performBootstrapChainedTransaction, built]
  rcases submitted : submitTransactions input.submitTx [] chain.transactions with
    ⟨passed, _ | _⟩ <;> simp [submitted]

/-- What reaches the node: nothing, with the builder's error, when building or signing
failed; otherwise a non-empty prefix of the eight transactions in their fixed order, and the
run returns `Ok` exactly when that prefix is the whole chain and the node accepted each
transaction. -/
theorem performBootstrapChainedTransaction_submissions :
    (∀ fault, buildSignedChain input = .error fault →
      performBootstrapChainedTransaction input = ([], .error fault)) ∧
    ∀ chain, buildSignedChain input = .ok chain →
      (performBootstrapChainedTransaction input).1 <+: chain.transactions ∧
      (performBootstrapChainedTransaction input).1 ≠ [] ∧
      ((∃ fields, (performBootstrapChainedTransaction input).2 = .ok fields) ↔
        (performBootstrapChainedTransaction input).1 = chain.transactions ∧
          AcceptsAll input.submitTx [] chain.transactions) := by
  refine ⟨fun _ failed => performBootstrapChainedTransaction_of_error failed, fun chain built => ?_⟩
  obtain ⟨passedEq, okIff⟩ := performBootstrapChainedTransaction_of_built built
  obtain ⟨passed, isPrefix, nonempty, walked, accepted⟩ :=
    submitTransactions_spec input.submitTx [] chain.transactions
  rw [passedEq, walked, List.nil_append, okIff, accepted]
  exact ⟨isPrefix, nonempty (List.cons_ne_nil _ _), Iff.rfl⟩

end Perform

end OracleCore
