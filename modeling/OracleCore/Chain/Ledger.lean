import OracleCore.Chain.Transaction

/-!
# A node's ledger of unspent boxes

What the CLI's transactions are for: a node keeps the boxes not spent yet and
accepts a transaction when its inputs are among them, each unspent box spent at
most once; the inputs leave the ledger and the outputs join it.  The ledger is
a multiset of boxes, so acceptance is `inputs.Subperm utxos`.

The ledger's nanoERG and its units of each token are sums over its boxes.  A
run of accepted transactions therefore changes them by what the transactions
create less what they spend: nothing for a transaction that creates what it
spends, the minted amount for a minting one.
-/

namespace OracleCore

/-- Accept `tx` on the unspent boxes `utxos`. -/
def spend (utxos : List ErgoBox) (tx : Transaction) : Option (List ErgoBox) :=
  if tx.inputs.Subperm utxos then some (utxos.diff tx.inputs ++ tx.outputs) else none

/-- Accept the transactions in turn, stopping at the first one the ledger refuses. -/
def spendAll (utxos : List ErgoBox) : List Transaction → Option (List ErgoBox)
  | [] => some utxos
  | tx :: rest => (spend utxos tx).bind fun next => spendAll next rest

@[simp] theorem spendAll_nil (utxos : List ErgoBox) : spendAll utxos [] = some utxos := rfl

theorem spendAll_cons {utxos : List ErgoBox} {tx : Transaction} {rest : List Transaction}
    {final : List ErgoBox} :
    spendAll utxos (tx :: rest) = some final ↔
      ∃ next, spend utxos tx = some next ∧ spendAll next rest = some final := by
  simp [spendAll, Option.bind_eq_some]

theorem spend_eq_some {utxos next : List ErgoBox} {tx : Transaction} :
    spend utxos tx = some next ↔
      tx.inputs.Subperm utxos ∧ next = utxos.diff tx.inputs ++ tx.outputs := by
  unfold spend
  split <;> simp_all [eq_comm]

/-- One accepted transaction as a multiset equation: what stays and what was spent is what
was unspent, and what stays and what was created is the new ledger. -/
theorem spend_perm {utxos next : List ErgoBox} {tx : Transaction}
    (accepted : spend utxos tx = some next) :
    (next ++ tx.inputs).Perm (utxos ++ tx.outputs) := by
  obtain ⟨held, rfl⟩ := spend_eq_some.mp accepted
  have split : (tx.inputs ++ utxos.diff tx.inputs).Perm utxos :=
    List.subperm_append_diff_self_of_count_le (List.subperm_ext_iff.mp held)
  have reordered : (utxos.diff tx.inputs ++ tx.outputs ++ tx.inputs).Perm
      (tx.inputs ++ utxos.diff tx.inputs ++ tx.outputs) := by
    rw [List.perm_iff_count]
    intro box
    simp only [List.count_append]
    omega
  exact reordered.trans (split.append_right _)

theorem boxValue_spend {utxos next : List ErgoBox} {tx : Transaction}
    (accepted : spend utxos tx = some next) :
    boxValue next + boxValue tx.inputs = boxValue utxos + boxValue tx.outputs := by
  simpa using boxValue_perm (spend_perm accepted)

theorem tokenAmount_spend (id : TokenId) {utxos next : List ErgoBox} {tx : Transaction}
    (accepted : spend utxos tx = some next) :
    tokenAmountOf id (boxTokens next) + tokenAmountOf id (boxTokens tx.inputs) =
      tokenAmountOf id (boxTokens utxos) + tokenAmountOf id (boxTokens tx.outputs) := by
  simpa using tokenAmountOf_boxTokens_perm id (spend_perm accepted)

/-- Each transaction of a run spends only boxes of `available`, which grows by the outputs of
each transaction in turn. -/
def SpendsAvailable : List ErgoBox → List Transaction → Prop
  | _, [] => True
  | available, tx :: rest =>
    (∀ box ∈ tx.inputs, box ∈ available) ∧ SpendsAvailable (available ++ tx.outputs) rest

/-- A ledger accepts a run that spends no box twice when each transaction spends boxes the
ledger held at the start or an earlier transaction created. -/
theorem spendAll_of_available {txs : List Transaction} :
    ∀ {utxos available : List ErgoBox}, SpendsAvailable available txs →
      (txs.flatMap Transaction.inputs).Nodup →
      (∀ box ∈ txs.flatMap Transaction.inputs, box ∈ available → box ∈ utxos) →
      ∃ final, spendAll utxos txs = some final := by
  induction txs with
  | nil => exact fun _ _ _ => ⟨_, rfl⟩
  | cons tx rest induction =>
      intro utxos available ⟨spent, later⟩ distinct held
      rw [List.flatMap_cons, List.nodup_append] at distinct
      obtain ⟨inputsDistinct, restDistinct, disjoint⟩ := distinct
      have present : tx.inputs.Subperm utxos := inputsDistinct.subperm fun box member =>
        held box (List.mem_append_left _ member) (spent box member)
      have kept : ∀ box ∈ rest.flatMap Transaction.inputs, box ∈ available ++ tx.outputs →
          box ∈ utxos.diff tx.inputs ++ tx.outputs := by
        intro box member availableNow
        rcases List.mem_append.mp availableNow with old | created
        · exact List.mem_append_left _ (List.mem_diff_of_mem
            (held box (List.mem_append_right _ member) old) fun spentHere =>
              disjoint spentHere member)
        · exact List.mem_append_right _ created
      obtain ⟨final, applied⟩ := induction later restDistinct kept
      exact ⟨final, spendAll_cons.mpr ⟨_, spend_eq_some.mpr ⟨present, rfl⟩, applied⟩⟩

/-- A run of transactions that each create the nanoERG they spend keeps the ledger's nanoERG. -/
theorem spendAll_boxValue {utxos final : List ErgoBox} {txs : List Transaction}
    (applied : spendAll utxos txs = some final)
    (conserved : ∀ tx ∈ txs, boxValue tx.outputs = boxValue tx.inputs) :
    boxValue final = boxValue utxos := by
  induction txs generalizing utxos with
  | nil => cases applied; rfl
  | cons tx rest induction =>
      obtain ⟨next, accepted, applied⟩ := spendAll_cons.mp applied
      have step := boxValue_spend accepted
      have kept := conserved tx (List.mem_cons_self _ _)
      rw [induction applied fun other member => conserved other (List.mem_cons_of_mem _ member)]
      omega

/-- A run of transactions that each create, of one token id, the units they spend and the
amount of the token paired with them changes the ledger's units by those amounts. -/
theorem spendAll_tokenAmount (id : TokenId) {utxos final : List ErgoBox}
    {txs : List Transaction} {minted : List Token}
    (flows : List.Forall₂ (fun (tx : Transaction) (token : Token) =>
      tokenAmountOf id (boxTokens tx.outputs) =
        tokenAmountOf id (boxTokens tx.inputs) +
          if token.tokenId = id then token.amount.raw else 0) txs minted)
    (applied : spendAll utxos txs = some final) :
    tokenAmountOf id (boxTokens final) =
      tokenAmountOf id (boxTokens utxos) + tokenAmountOf id minted := by
  induction flows generalizing utxos with
  | nil => cases applied; simp
  | cons flow _ induction =>
      obtain ⟨next, accepted, applied⟩ := spendAll_cons.mp applied
      have step := tokenAmount_spend id accepted
      rw [induction applied, tokenAmountOf_cons]
      omega

end OracleCore
