import OracleCore.Chain.Ledger
import OracleCore.Bootstrap.Conservation

/-!
# The bootstrap chain on a node's ledger

A node that keeps a ledger of unspent boxes accepts the chain's six minting
transactions in turn whenever its ledger holds the wallet's unspent boxes: the
first spends wallet boxes, and each later one spends outputs of the one before,
which the ledger has just received.  After them the ledger holds the nanoERG it
held before, and of every token id its units plus what the six minted.  Against
such a node a run therefore always gets as far as the pool-box transaction.
The pool-box and refresh-box transactions also spend NFT boxes of the first two
transactions, so the node accepts them as well exactly when no box of the chain
is spent twice.
-/

namespace OracleCore

/-- A node that keeps a ledger started from `utxos`: it accepts a transaction when the ledger
accepts the transactions submitted before it and then this one, and answers with its id. -/
def ledgerNode (utxos : List ErgoBox) (submitted : List Transaction) (tx : Transaction) :
    Except NodeError String :=
  match spendAll utxos (submitted ++ [tx]) with
  | some _ => .ok (toString tx.id.digest)
  | none => .error (.rejected "input not unspent")

theorem spendAll_of_append {utxos final : List ErgoBox} {first second : List Transaction}
    (applied : spendAll utxos (first ++ second) = some final) :
    ∃ middle, spendAll utxos first = some middle := by
  induction first generalizing utxos with
  | nil => exact ⟨utxos, rfl⟩
  | cons tx rest induction =>
      obtain ⟨next, accepted, applied⟩ := spendAll_cons.mp applied
      obtain ⟨middle, restApplied⟩ := induction applied
      exact ⟨middle, spendAll_cons.mpr ⟨next, accepted, restApplied⟩⟩

/-- A ledger accepts a run in which each transaction spends only outputs of the one before,
once it accepts the first. -/
theorem spendAll_of_chain {utxos : List ErgoBox} {first : Transaction} {rest : List Transaction}
    (held : first.inputs.Subperm utxos)
    (chained : List.Chain (fun (previous next : Transaction) =>
      next.inputs.Subperm previous.outputs) first rest) :
    ∃ final, spendAll utxos (first :: rest) = some final := by
  induction chained generalizing utxos with
  | nil => exact ⟨_, spendAll_cons.mpr ⟨_, spend_eq_some.mpr ⟨held, rfl⟩, rfl⟩⟩
  | cons spends _ induction =>
      obtain ⟨final, applied⟩ :=
        induction (spends.trans (List.sublist_append_right _ _).subperm)
      exact ⟨final, spendAll_cons.mpr ⟨_, spend_eq_some.mpr ⟨held, rfl⟩, applied⟩⟩

/-- The ledger node accepts each transaction of a run its ledger accepts. -/
theorem ledgerNode_acceptsAll {utxos final : List ErgoBox} {submitted txs : List Transaction}
    (applied : spendAll utxos (submitted ++ txs) = some final) :
    AcceptsAll (ledgerNode utxos) submitted txs := by
  induction txs generalizing submitted with
  | nil => trivial
  | cons tx rest induction =>
      rw [← List.singleton_append, ← List.append_assoc] at applied
      obtain ⟨middle, accepted⟩ := spendAll_of_append applied
      exact ⟨⟨_, by rw [ledgerNode, accepted]⟩, induction applied⟩

/-- The submission loop passes on the transactions the node accepts and the one after them. -/
theorem submitTransactions_passes
    {submitTx : List Transaction → Transaction → Except NodeError String}
    {submitted accepted rest : List Transaction} {next : Transaction}
    (accepts : AcceptsAll submitTx submitted accepted) :
    submitted ++ accepted ++ [next] <+:
      (submitTransactions submitTx submitted (accepted ++ next :: rest)).1 := by
  induction accepted generalizing submitted with
  | nil =>
      rw [List.append_nil, List.nil_append, submitTransactions]
      split
      · exact List.prefix_rfl
      · obtain ⟨passed, -, -, walked, -⟩ :=
          submitTransactions_spec submitTx (submitted ++ [next]) rest
        exact walked ▸ List.prefix_append _ _
  | cons tx accepted induction =>
      obtain ⟨⟨_, ok⟩, later⟩ := accepts
      rw [List.cons_append, submitTransactions, ok]
      simpa using induction later

/-- The submission loop passes on every transaction the node accepts, and succeeds. -/
theorem submitTransactions_of_acceptsAll
    {submitTx : List Transaction → Transaction → Except NodeError String}
    {submitted txs : List Transaction} (accepts : AcceptsAll submitTx submitted txs) :
    submitTransactions submitTx submitted txs = (submitted ++ txs, .ok ()) := by
  induction txs generalizing submitted with
  | nil => simp [submitTransactions]
  | cons tx rest induction =>
      obtain ⟨⟨_, ok⟩, later⟩ := accepts
      rw [submitTransactions, ok]
      simpa using induction later

section Mints

variable {input : BootstrapInput} {chain : SignedChain} {unspentBoxes utxos : List ErgoBox}

/-- The six minting transactions of a built chain, on a ledger that holds the wallet's unspent
boxes: the first spends wallet boxes, each later one outputs of the one before. -/
theorem buildSignedChain_mints_chained (built : buildSignedChain input = .ok chain)
    (unspent : input.wallet = .ok unspentBoxes) (held : unspentBoxes.Subperm utxos) :
    chain.signedMintPoolNftTx.inputs.Subperm utxos ∧
      List.Chain (fun (previous next : Transaction) => next.inputs.Subperm previous.outputs)
        chain.signedMintPoolNftTx (chain.transactions.take 6).tail := by
  obtain ⟨walletPkErgoTree, _, _, _, _, _, _, _, _, -, unspent', -, selected, poolNft, refreshNft,
    -, ballot, -, updateNft, -, -, oracle, -, reward, -⟩ := buildSignedChain_ok built
  obtain rfl : unspentBoxes = _ := by simpa [unspent] using unspent'
  have spends {inputBoxes : List ErgoBox} {left : Nat} {tokenName tokenDesc : String}
      {tokenAmount : TokenAmount} {guard : Option ErgoTree} {token : Token}
      {tx previous : Transaction}
      {left' : Nat} (outputs : inputBoxes = filterTxOutputs walletPkErgoTree previous.outputs)
      (minted : mintToken (input.chainContext walletPkErgoTree) inputBoxes left tokenName tokenDesc
        tokenAmount guard = .ok (token, tx, left')) :
      tx.inputs.Subperm previous.outputs :=
    (mintToken_inputs minted).trans (outputs ▸ (List.filter_sublist _).subperm)
  exact ⟨((mintToken_inputs poolNft).trans (select_boxes_subperm selected)).trans held,
    .cons (spends rfl refreshNft) <| .cons (spends rfl ballot) <| .cons (spends rfl updateNft) <|
      .cons (spends rfl oracle) <| .cons (spends rfl reward) .nil⟩

/-- Against a ledger that holds the wallet's unspent boxes, the node accepts the six minting
transactions of a built chain in turn; the ledger then holds the nanoERG it held, and of every
token id its units plus the amounts the six transactions minted. -/
theorem buildSignedChain_ledger_mints (built : buildSignedChain input = .ok chain)
    (unspent : input.wallet = .ok unspentBoxes) (held : unspentBoxes.Subperm utxos) :
    ∃ final, spendAll utxos (chain.transactions.take 6) = some final ∧
      boxValue final = boxValue utxos ∧
      ∀ id, tokenAmountOf id (boxTokens final) =
        tokenAmountOf id (boxTokens utxos) + tokenAmountOf id chain.mintedTokens := by
  obtain ⟨first, chained⟩ := buildSignedChain_mints_chained built unspent held
  obtain ⟨final, applied⟩ := spendAll_of_chain first chained
  replace applied : spendAll utxos (chain.transactions.take 6) = some final := applied
  exact ⟨final, applied,
    spendAll_boxValue applied fun tx member =>
      buildSignedChain_value built tx (List.mem_of_mem_take member),
    fun id => spendAll_tokenAmount id (buildSignedChain_mint_flows built id) applied⟩

theorem buildSignedChain_ledger_mints_testBootstrap :
    ∃ chain, buildSignedChain testBootstrapInput = .ok chain ∧
      ∃ final, spendAll [testWalletBox] (chain.transactions.take 6) = some final ∧
        boxValue final = boxValue [testWalletBox] ∧
        ∀ id, tokenAmountOf id (boxTokens final) =
          tokenAmountOf id (boxTokens [testWalletBox]) + tokenAmountOf id chain.mintedTokens :=
  ⟨_, rfl, @buildSignedChain_ledger_mints testBootstrapInput _ [testWalletBox] [testWalletBox]
    rfl rfl (List.Subperm.refl _)⟩

/-- A built chain spends, in turn, only boxes of a ledger holding the wallet's unspent boxes
and outputs of the transactions before. -/
theorem buildSignedChain_spendsAvailable (built : buildSignedChain input = .ok chain)
    (unspent : input.wallet = .ok unspentBoxes) (held : unspentBoxes.Subperm utxos) :
    SpendsAvailable utxos chain.transactions := by
  obtain ⟨walletPkErgoTree, _, _, _, _, _, _, _, _, script, -⟩ := buildSignedChain_ok built
  obtain ⟨first, mints, ⟨poolNftBox, poolNftFound, poolSpends⟩,
    ⟨refreshNftBox, refreshNftFound, refreshSpends⟩⟩ :=
    spendsPredecessors_of_built built script unspent
  have poolNftMade := List.mem_of_find?_eq_some poolNftFound
  have refreshNftMade := List.mem_of_find?_eq_some refreshNftFound
  simp only [SignedChain.transactions, List.take, List.chain'_cons, List.chain'_singleton,
    and_true] at mints
  obtain ⟨refreshNftSpends, ballotSpends, updateNftSpends, oracleSpends, rewardSpends⟩ := mints
  have fromPrevious {earlier : List ErgoBox} {previous next : Transaction}
      (spends : next.inputs.Subperm (filterTxOutputs walletPkErgoTree previous.outputs)) :
      ∀ box ∈ next.inputs, box ∈ earlier ++ previous.outputs := fun box member =>
    List.mem_append_right _ (List.mem_of_mem_filter (spends.subset member))
  -- The pool-box and refresh-box steps also spend an NFT box of an earlier transaction.
  have fromPreviousAnd {earlier : List ErgoBox} {previous next : Transaction} {nftBox : ErgoBox}
      (spends : next.inputs.Subperm
        (filterTxOutputs walletPkErgoTree previous.outputs ++ [nftBox]))
      (made : nftBox ∈ earlier) :
      ∀ box ∈ next.inputs, box ∈ earlier ++ previous.outputs := fun box member =>
    (List.mem_append.mp (spends.subset member)).elim
      (fun kept => List.mem_append_right _ (List.mem_of_mem_filter kept))
      (fun carried => List.mem_append_left _ (List.mem_singleton.mp carried ▸ made))
  refine ⟨fun box member => held.subset (first.subset member), fromPrevious refreshNftSpends,
    fromPrevious ballotSpends, fromPrevious updateNftSpends, fromPrevious oracleSpends,
    fromPrevious rewardSpends, fromPreviousAnd poolSpends (by simp [poolNftMade]),
    fromPreviousAnd refreshSpends (by simp [refreshNftMade]), trivial⟩

/-- Against a node that keeps a ledger holding the wallet's unspent boxes, a run whose chain
was built gets the six minting transactions accepted and submits the pool-box transaction;
when the chain spends no box twice, the node accepts all eight transactions and the run
succeeds. -/
theorem performBootstrapChainedTransaction_ledgerNode (built : buildSignedChain input = .ok chain)
    (unspent : input.wallet = .ok unspentBoxes) (held : unspentBoxes.Subperm utxos)
    (node : input.submitTx = ledgerNode utxos) :
    chain.transactions.take 7 <+: (performBootstrapChainedTransaction input).1 ∧
      ((chain.transactions.flatMap Transaction.inputs).Nodup →
        ∃ fields, performBootstrapChainedTransaction input = (chain.transactions, .ok fields)) := by
  refine ⟨?_, fun distinct => ?_⟩
  · obtain ⟨first, chained⟩ := buildSignedChain_mints_chained built unspent held
    obtain ⟨_, applied⟩ := spendAll_of_chain first chained
    have accepts := @ledgerNode_acceptsAll _ _ [] _ applied
    rw [← node] at accepts
    rw [(performBootstrapChainedTransaction_of_built built).1]
    simpa using @submitTransactions_passes _ _ _ [chain.signedRefreshBoxTx] chain.signedPoolBoxTx
      accepts
  · obtain ⟨_, applied⟩ := spendAll_of_available
      (buildSignedChain_spendsAvailable built unspent held) distinct fun _ _ member => member
    have accepts : AcceptsAll input.submitTx [] chain.transactions :=
      node ▸ @ledgerNode_acceptsAll _ _ [] chain.transactions applied
    rw [performBootstrapChainedTransaction, built]
    dsimp only
    rw [submitTransactions_of_acceptsAll accepts, List.nil_append]
    exact ⟨_, rfl⟩

/-- The test configuration run against a node whose ledger holds the test wallet's box. -/
def ledgerTestInput : BootstrapInput :=
  { testBootstrapInput with submitTx := ledgerNode [testWalletBox] }

/-- The test chain spends no box twice, so the node accepts all eight transactions. -/
theorem performBootstrapChainedTransaction_ledgerNode_testBootstrap :
    ∃ chain, buildSignedChain ledgerTestInput = .ok chain ∧
      (chain.transactions.flatMap Transaction.inputs).Nodup ∧
      chain.transactions.take 7 <+: (performBootstrapChainedTransaction ledgerTestInput).1 ∧
      ∃ fields, performBootstrapChainedTransaction ledgerTestInput = (chain.transactions, .ok fields) :=
  have run := @performBootstrapChainedTransaction_ledgerNode ledgerTestInput _ [testWalletBox]
    [testWalletBox] rfl rfl (List.Subperm.refl _) rfl
  have distinct := by decide
  ⟨_, rfl, distinct, run.1, run.2 distinct⟩

end Mints

end OracleCore
