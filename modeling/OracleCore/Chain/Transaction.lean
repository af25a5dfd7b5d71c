import OracleCore.Chain.BoxSelector

/-!
# Transactions and the transaction builder

`TxBuilder::build` of `ergo-lib` turns a box selection and the output
candidates into an unsigned transaction: the outputs are the candidates, then
one change box per change entry of the selection, guarded by the change
address, then the miners' fee box.  It refuses a selection that names one
box twice, outputs worth more than the inputs, and output tokens the inputs do
not hold, except the one token a transaction may mint, named after its first
input.

A signed transaction has the same inputs and outputs as the unsigned one; its
outputs become boxes whose ids derive from the transaction id.  The id itself
is a hash of the transaction and no result depends on its value, so the
signer's answer supplies it.

The box builder is modelled without its serialized-size checks (they read the
byte encoding of a box, which the model leaves out), so building a candidate
does not fail.
-/

namespace OracleCore

/-- Failures of the node's wallet and submission interfaces. -/
inductive NodeError where
  | nodeUnreachable
  | walletLocked
  | rejected (reason : String)
  deriving DecidableEq, Repr

inductive SigmaParsingError where
  | invalidScript
  deriving DecidableEq, Repr

/-- An address; `script()` recovers its guard script and can fail. -/
structure Address where
  script : Except SigmaParsingError ErgoTree

inductive TxBuilderError where
  | invalidArgs (reason : String)
  | notEnoughCoins (missing : Nat)
  | notEnoughTokens
  | changeAddress (error : SigmaParsingError)
  deriving DecidableEq, Repr

/-- The library keeps the ids of the inputs; the model keeps the boxes themselves. -/
structure UnsignedTransaction where
  inputs : List ErgoBox
  outputCandidates : List ErgoBoxCandidate
  deriving DecidableEq, Repr

structure Transaction where
  id : TxId
  inputs : List ErgoBox
  outputs : List ErgoBox
  deriving DecidableEq, Repr

/-- The signed transaction of an unsigned one: its candidates become boxes of this id. -/
def Transaction.new (id : TxId) (tx : UnsignedTransaction) : Transaction where
  id := id
  inputs := tx.inputs
  outputs := tx.outputCandidates.mapIdx fun index candidate =>
    ErgoBox.fromBoxCandidate candidate id index

theorem Transaction.new_outputs_candidates (id : TxId) (tx : UnsignedTransaction) :
    (Transaction.new id tx).outputs.map ErgoBox.toErgoBoxCandidate = tx.outputCandidates := by
  apply List.ext_getElem?
  intro index
  simp [Transaction.new, Function.comp_def]

/-- The guard of the miners' fee box, a fixed contract of the network. -/
def minersFeeTree : ErgoTree := ⟨0⟩

/-- `new_miner_fee_box`. -/
def feeBox (feeAmount : BoxValue) (creationHeight : Nat) : ErgoBoxCandidate :=
  ⟨feeAmount, minersFeeTree, [], [], creationHeight⟩

/-- The change box of one change entry. -/
def changeBox (changeTree : ErgoTree) (creationHeight : Nat) (assets : ErgoBoxAssetsData) :
    ErgoBoxCandidate :=
  ⟨assets.value, changeTree, assets.tokens, [], creationHeight⟩

@[simp] theorem boxesValue_map_changeBox (changeTree : ErgoTree) (height : Nat)
    (change : List ErgoBoxAssetsData) :
    boxesValue (change.map (changeBox changeTree height)) =
      (change.map fun assets => assets.value.raw).sum := by
  simp [boxesValue, changeBox, Function.comp_def]

theorem changeBoxes_boxesTokenAmount (id : TokenId) (changeTree : ErgoTree) (height : Nat)
    (change : List ErgoBoxAssetsData) :
    boxesTokenAmount id (change.map (changeBox changeTree height)) =
      (change.map fun assets => tokenAmountOf id assets.tokens).sum := by
  simp [boxesTokenAmount, changeBox, Function.comp_def]

/-- `ErgoBoxCandidateBuilder` as the pool's code drives it. -/
structure ErgoBoxCandidateBuilder where
  value : BoxValue
  ergoTree : ErgoTree
  creationHeight : Nat
  additionalRegisters : List Constant
  tokens : List Token

namespace ErgoBoxCandidateBuilder

def new (value : BoxValue) (ergoTree : ErgoTree) (creationHeight : Nat) :
    ErgoBoxCandidateBuilder :=
  ⟨value, ergoTree, creationHeight, [], []⟩

/-- `set_register_value(R4, value)` on a builder with no registers yet. -/
def setR4 (builder : ErgoBoxCandidateBuilder) (value : Constant) : ErgoBoxCandidateBuilder :=
  { builder with additionalRegisters := [value] }

def addToken (builder : ErgoBoxCandidateBuilder) (token : Token) : ErgoBoxCandidateBuilder :=
  { builder with tokens := builder.tokens ++ [token] }

/-- `mint_token`: the minted token, and its name, description and number of decimals in R4 to
R6 as UTF-8 bytes. -/
def mintToken (builder : ErgoBoxCandidateBuilder) (token : Token) (tokenName tokenDesc : String)
    (numDecimals : Nat) : ErgoBoxCandidateBuilder :=
  { builder with
    tokens := builder.tokens ++ [token]
    additionalRegisters := [.collByte tokenName.toUTF8.toList, .collByte tokenDesc.toUTF8.toList,
      .collByte (toString numDecimals).toUTF8.toList] }

def build (builder : ErgoBoxCandidateBuilder) : ErgoBoxCandidate :=
  ⟨builder.value, builder.ergoTree, builder.tokens, builder.additionalRegisters,
    builder.creationHeight⟩

end ErgoBoxCandidateBuilder

structure TxBuilder where
  boxSelection : BoxSelection
  outputCandidates : List ErgoBoxCandidate
  currentHeight : Nat
  feeAmount : BoxValue
  changeAddress : Address

/-- Tokens of a list of candidates, in order. -/
def candidateTokens (candidates : List ErgoBoxCandidate) : List Token :=
  candidates.flatMap fun candidate => candidate.tokens

/-- All outputs of the transaction: candidates, change boxes, fee box. -/
def TxBuilder.outputs (builder : TxBuilder) (changeTree : ErgoTree) : List ErgoBoxCandidate :=
  builder.outputCandidates ++
    builder.boxSelection.changeBoxes.map (changeBox changeTree builder.currentHeight) ++
    [feeBox builder.feeAmount builder.currentHeight]

/-- `TxBuilder::build`.  The selection is never empty, so the check for empty inputs is left
out; data inputs are none, so are their checks. -/
def TxBuilder.build (builder : TxBuilder) : Except TxBuilderError UnsignedTransaction := do
  if builder.outputCandidates.isEmpty then throw (.invalidArgs "outputs are empty")
  if 65535 < builder.boxSelection.boxes.length then throw (.invalidArgs "too many inputs")
  if !(builder.boxSelection.boxes.map ErgoBox.boxId).Nodup then
    throw (.invalidArgs "duplicate inputs found")
  let changeTree ← builder.changeAddress.script.mapError .changeAddress
  let outputs := builder.outputs changeTree
  let inputs := builder.boxSelection.boxes
  if boxValue inputs < boxesValue outputs then
    throw (.notEnoughCoins (boxesValue outputs - boxValue inputs))
  let minted := TokenId.ofBoxId builder.boxSelection.first.boxId
  if !coversTokens ((candidateTokens outputs).filter fun token => token.tokenId ≠ minted)
      (boxTokens inputs) then
    throw .notEnoughTokens
  pure ⟨inputs, outputs⟩

/-- What a built transaction is: the selection's boxes spent into the candidates, the
change boxes under the change address's script, and the fee box. -/
theorem TxBuilder.build_ok {builder : TxBuilder} {tx : UnsignedTransaction}
    (built : builder.build = .ok tx) :
    ∃ changeTree, builder.changeAddress.script = .ok changeTree ∧
      tx.inputs = builder.boxSelection.boxes ∧ tx.outputCandidates = builder.outputs changeTree ∧
      (tx.inputs.map ErgoBox.boxId).Nodup := by
  unfold TxBuilder.build at built
  simp only [bind, Except.bind, throw, throwThe, MonadExceptOf.throw, pure, Except.pure] at built
  split at built
  · cases built
  split at built
  · cases built
  split at built
  · cases built
  next distinct =>
    cases changeScript : builder.changeAddress.script with
    | error reason => simp [changeScript, Except.mapError] at built
    | ok changeTree =>
        simp only [changeScript, Except.mapError] at built
        split at built
        · cases built
        split at built
        · cases built
        cases built
        exact ⟨changeTree, rfl, rfl, rfl, by simpa using distinct⟩

section Balance

variable {inputs : List ErgoBox} {targetBalance : BoxValue} {targetTokens : List Token}
  {selection : BoxSelection} (changeTree : ErgoTree) (height : Nat) (fee : BoxValue)

/-- A transaction that spends boxes `carried` over and a selection for `targetBalance`, and
creates `kept` worth them less the fee, then the change and the fee box, creates exactly the
value it spends. -/
theorem value_balance
    (selected : SimpleBoxSelector.select inputs targetBalance targetTokens = .ok selection)
    (carried : List ErgoBox) {kept : List ErgoBoxCandidate}
    (balanced : boxesValue kept + fee.raw = boxValue carried + targetBalance.raw) :
    boxesValue (kept ++ selection.changeBoxes.map (changeBox changeTree height) ++
      [feeBox fee height]) = boxValue (carried ++ selection.boxes) := by
  have := select_value selected
  simp only [boxesValue_append, boxesValue_map_changeBox, boxValue_append, boxesValue_cons,
    boxesValue_nil, feeBox]
  omega

/-- Per token id, such a transaction creates the units of `kept` and the selected units beyond
the targets. -/
theorem tokenAmount_balance
    (selected : SimpleBoxSelector.select inputs targetBalance targetTokens = .ok selection)
    (kept : List ErgoBoxCandidate) (id : TokenId) :
    boxesTokenAmount id (kept ++ selection.changeBoxes.map (changeBox changeTree height) ++
        [feeBox fee height]) + tokenAmountOf id targetTokens =
      boxesTokenAmount id kept + tokenAmountOf id (boxTokens selection.boxes) := by
  have := select_tokenAmount selected id
  simp only [boxesTokenAmount_append, changeBoxes_boxesTokenAmount, boxesTokenAmount_cons,
    boxesTokenAmount_nil, feeBox, tokenAmountOf_nil]
  omega

end Balance

end OracleCore
