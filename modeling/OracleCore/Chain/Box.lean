import Mathlib

/-!
# Boxes, tokens and bounded amounts

The UTXO vocabulary the oracle pool is written in, as `ergo-lib` defines it: a
box carries a value in nanoERG, a guard script, an ordered list of tokens and
densely packed registers.  `BoxValue` and `TokenAmount` are bounded integers
whose constructors check their range, so an out-of-range amount cannot be
built; the checked operations return the library's errors instead.

Amounts are summed in `Nat`: the accounting identities of later modules are
unconditional, and every bound the code relies on is a checked operation here.
A Rust call that does not return a value either returns an error or panics;
`Fault` keeps the two apart: an error is passed up through `?` and reported by
the command, while a panic aborts the whole process at its site.
-/

namespace OracleCore

/-- Why a Rust call panicked instead of returning. -/
inductive Panic where
  | indexOutOfBounds
  | arithmeticOverflow
  /-- `Result::unwrap` on an `Err`. -/
  | unwrapFailed
  /-- `Option::unwrap` on `None`. -/
  | unwrapNone
  /-- `todo!()`. -/
  | todo
  deriving DecidableEq, Repr

/-- A call that yields no value: it returned an error, or it panicked. -/
inductive Fault (ε : Type) where
  | error (e : ε)
  | panic (site : Panic)
  deriving DecidableEq, Repr

/-- Run a fallible callee whose error type is converted with `From`. -/
def lift (convert : ε → ε') (call : Except ε α) : Except (Fault ε') α :=
  call.mapError (fun e => .error (convert e))

/-- `unwrap()` on a `Result`: the value, or a panic. -/
def unwrap (call : Except ε α) : Except (Fault ε') α :=
  call.mapError (fun _ => .panic .unwrapFailed)

/-- `unwrap()` on an `Option`. -/
def unwrapSome : Option α → Except (Fault ε) α
  | some value => .ok value
  | none => .error (.panic .unwrapNone)

/-- `left - right` on an unsigned integer, which panics below zero. -/
def checkedSub (left right : Nat) : Except (Fault ε) Nat :=
  if right ≤ left then .ok (left - right) else .error (.panic .arithmeticOverflow)

theorem checkedSub_of_le {left right : Nat} (le : right ≤ left) :
    (checkedSub left right : Except (Fault ε) Nat) = .ok (left - right) := by
  simp [checkedSub, le]

theorem checkedSub_eq_ok {left right result : Nat} :
    (checkedSub left right : Except (Fault ε) Nat) = .ok result ↔
      right ≤ left ∧ result = left - right := by
  unfold checkedSub
  split <;> simp_all [eq_comm]

@[simp] theorem lift_ok (convert : ε → ε') (value : α) :
    lift convert (.ok value : Except ε α) = (.ok value : Except (Fault ε') α) := rfl

@[simp] theorem unwrap_ok (value : α) :
    (unwrap (.ok value : Except ε α) : Except (Fault ε') α) = .ok value := rfl

theorem bind_eq_ok {x : Except ε α} {next : α → Except ε β} {result : β} :
    x >>= next = .ok result ↔ ∃ value, x = .ok value ∧ next value = .ok result := by
  cases x <;> simp [bind, Except.bind]

theorem lift_eq_ok {convert : ε → ε'} {call : Except ε α} {value : α} :
    (lift convert call : Except (Fault ε') α) = .ok value ↔ call = .ok value := by
  cases call <;> simp [lift, Except.mapError]

theorem unwrapSome_eq_ok {option : Option α} {value : α} :
    (unwrapSome option : Except (Fault ε) α) = .ok value ↔ option = some value := by
  cases option <;> simp [unwrapSome]

theorem unwrap_eq_ok {call : Except ε α} {value : α} :
    (unwrap call : Except (Fault ε') α) = .ok value ↔ call = .ok value := by
  cases call <;> simp [unwrap, Except.mapError]

theorem bind_eq_error {x : Except ε α} {next : α → Except ε β} {e : ε} :
    x >>= next = .error e ↔ x = .error e ∨ ∃ value, x = .ok value ∧ next value = .error e := by
  cases x <;> simp [bind, Except.bind]

/-- Every error `call` can end with satisfies `allowed`. -/
def FailsOnly (allowed : ε → Prop) (call : Except ε α) : Prop :=
  ∀ e, call = .error e → allowed e

namespace FailsOnly

variable {allowed : ε → Prop}

theorem of_ok (value : α) : FailsOnly allowed (.ok value : Except ε α) :=
  fun _ failed => by cases failed

theorem of_eq_ok {call : Except ε α} {value : α} (succeeded : call = .ok value) :
    FailsOnly allowed call :=
  fun _ failed => by rw [succeeded] at failed; cases failed

theorem bind {x : Except ε α} {next : α → Except ε β} (first : FailsOnly allowed x)
    (rest : ∀ value, x = .ok value → FailsOnly allowed (next value)) :
    FailsOnly allowed (x >>= next) := by
  intro e failed
  rcases bind_eq_error.mp failed with stopped | ⟨value, passed, failedLater⟩
  · exact first e stopped
  · exact rest value passed e failedLater

theorem lift {convert : ε' → ε''} {allowed : Fault ε'' → Prop} {call : Except ε' α}
    (safe : ∀ e, allowed (.error (convert e))) : FailsOnly allowed (OracleCore.lift convert call) := by
  intro e failed
  cases call with
  | error e' => cases failed; exact safe e'
  | ok value => cases failed

theorem unwrap {allowed : Fault ε' → Prop} {call : Except ε α}
    (safe : allowed (.panic .unwrapFailed)) : FailsOnly allowed (OracleCore.unwrap call : Except (Fault ε') α) := by
  intro e failed
  cases call with
  | error e' => cases failed; exact safe
  | ok value => cases failed

theorem unwrapSome {allowed : Fault ε → Prop} {option : Option α}
    (safe : allowed (.panic .unwrapNone)) : FailsOnly allowed (OracleCore.unwrapSome option) := by
  intro e failed
  cases option with
  | none => cases failed; exact safe
  | some value => cases failed

end FailsOnly

/-- A 32-byte digest: box, token and transaction identifiers are all digests. -/
structure BoxId where
  digest : Nat
  deriving DecidableEq, Repr

structure TokenId where
  digest : Nat
  deriving DecidableEq, Repr

structure TxId where
  digest : Nat
  deriving DecidableEq, Repr

/-- A minted token is named after the first input box of its minting transaction. -/
def TokenId.ofBoxId (id : BoxId) : TokenId := ⟨id.digest⟩

/-- A guard script; scripts are only ever compared for equality. -/
structure ErgoTree where
  script : Nat
  deriving DecidableEq, Repr

structure EcPoint where
  point : Nat
  deriving DecidableEq, Repr

/-- Register contents the modelled code writes or reads. -/
inductive Constant where
  | int (value : Int)
  | long (value : Int)
  | groupElement (point : EcPoint)
  | collByte (bytes : List UInt8)
  deriving DecidableEq, Repr

inductive BoxValueError where
  | overflow
  | outOfBounds (raw : Nat)
  deriving DecidableEq, Repr

namespace BoxValue

/-- `BoxValue::MIN_RAW`: 360 nanoERG per byte for the minimal box of 30 bytes. -/
def MIN_RAW : Nat := 360 * 30

/-- `BoxValue::MAX_RAW`, that is `i64::MAX`. -/
def MAX_RAW : Nat := 2 ^ 63 - 1

end BoxValue

/-- An amount of nanoERG inside the range the library admits for a box. -/
structure BoxValue where
  raw : Nat
  min_le : BoxValue.MIN_RAW ≤ raw
  le_max : raw ≤ BoxValue.MAX_RAW
  deriving DecidableEq, Repr

namespace BoxValue

/-- `BoxValue::new`: range-checked construction. -/
def new (raw : Nat) : Except BoxValueError BoxValue :=
  if within : MIN_RAW ≤ raw ∧ raw ≤ MAX_RAW then .ok ⟨raw, within.1, within.2⟩
  else .error (.outOfBounds raw)

/-- `checked_mul_u32`: the `u64` product, checked against the upper bound only.  A positive
factor keeps the product at least the value, so the lower bound needs no check; a factor of zero
would give the value `0`, which no `BoxValue` holds, and is refused here (no call of the CLI
multiplies by zero). -/
def checkedMulU32 (value : BoxValue) (factor : Nat) : Except BoxValueError BoxValue :=
  if value.raw * factor < 2 ^ 64 then
    if within : 0 < factor ∧ value.raw * factor ≤ MAX_RAW then
      .ok ⟨value.raw * factor,
        value.min_le.trans (Nat.le_mul_of_pos_right _ within.1), within.2⟩
    else .error (.outOfBounds (value.raw * factor))
  else .error .overflow

/-- `checked_add`: the `u64` sum, then the range check. -/
def checkedAdd (left right : BoxValue) : Except BoxValueError BoxValue :=
  if left.raw + right.raw < 2 ^ 64 then new (left.raw + right.raw) else .error .overflow

def MIN : BoxValue := ⟨MIN_RAW, le_refl _, by decide⟩

/-- `BoxValue::SAFE_USER_MIN`, the value the CLI uses for boxes and fees. -/
def SAFE_USER_MIN : BoxValue := ⟨1000000, by decide, by decide⟩

theorem new_of_within {raw : Nat} (low : MIN_RAW ≤ raw) (high : raw ≤ MAX_RAW) :
    new raw = .ok ⟨raw, low, high⟩ := by
  simp [new, low, high]

theorem raw_pos (value : BoxValue) : 0 < value.raw :=
  lt_of_lt_of_le (by decide) value.min_le

theorem new_eq_ok {raw : Nat} {value : BoxValue} :
    new raw = .ok value ↔ MIN_RAW ≤ raw ∧ raw ≤ MAX_RAW ∧ value.raw = raw := by
  unfold new
  split
  · next within =>
      rcases value with ⟨raw', low, high⟩
      constructor
      · rintro ⟨⟩; exact ⟨within.1, within.2, rfl⟩
      · rintro ⟨-, -, rfl⟩; rfl
  · next outside =>
      simp only [reduceCtorEq, false_iff]
      rintro ⟨low, high, -⟩
      exact outside ⟨low, high⟩

/-- `checked_mul_u32` succeeds exactly on a product inside the range. -/
theorem checkedMulU32_eq_ok {value result : BoxValue} {factor : Nat} :
    value.checkedMulU32 factor = .ok result ↔
      MIN_RAW ≤ value.raw * factor ∧ value.raw * factor ≤ MAX_RAW ∧
        result.raw = value.raw * factor := by
  have low := value.min_le
  unfold checkedMulU32
  split
  · split
    · next within =>
        rcases result with ⟨raw, resultLow, resultHigh⟩
        have least : value.raw ≤ value.raw * factor := Nat.le_mul_of_pos_right _ within.1
        constructor
        · rintro ⟨⟩; exact ⟨low.trans least, within.2, rfl⟩
        · rintro ⟨-, -, rfl⟩; rfl
    · next outside =>
        simp only [reduceCtorEq, false_iff]
        rintro ⟨atLeast, high, -⟩
        refine outside ⟨Nat.pos_of_ne_zero fun zero => ?_, high⟩
        simp only [zero, Nat.mul_zero, MIN_RAW] at atLeast
        omega
  · next large =>
      simp only [reduceCtorEq, false_iff]
      rintro ⟨-, high, -⟩
      exact large (by unfold MAX_RAW at high; omega)

theorem checkedAdd_eq_ok {left right result : BoxValue} :
    left.checkedAdd right = .ok result ↔
      left.raw + right.raw ≤ MAX_RAW ∧ result.raw = left.raw + right.raw := by
  have low := left.min_le
  unfold checkedAdd
  split
  · rw [new_eq_ok]
    constructor
    · rintro ⟨-, high, sum⟩; exact ⟨high, sum⟩
    · rintro ⟨high, sum⟩; exact ⟨by omega, high, sum⟩
  · next large =>
      simp only [reduceCtorEq, false_iff]
      rintro ⟨high, -⟩
      exact large (by unfold MAX_RAW at high; omega)

end BoxValue

inductive TokenAmountError where
  | outOfBounds (raw : Nat)
  deriving DecidableEq, Repr

namespace TokenAmount

def MAX_RAW : Nat := 2 ^ 63 - 1

end TokenAmount

/-- A token amount: at least one unit and at most `i64::MAX`. -/
structure TokenAmount where
  raw : Nat
  pos : 1 ≤ raw
  le_max : raw ≤ TokenAmount.MAX_RAW
  deriving DecidableEq, Repr

namespace TokenAmount

/-- `TokenAmount::try_from(u64)`. -/
def new (raw : Nat) : Except TokenAmountError TokenAmount :=
  if within : 1 ≤ raw ∧ raw ≤ MAX_RAW then .ok ⟨raw, within.1, within.2⟩
  else .error (.outOfBounds raw)

def checkedAdd (left right : TokenAmount) : Except TokenAmountError TokenAmount :=
  new (left.raw + right.raw)

def checkedSub (left right : TokenAmount) : Except TokenAmountError TokenAmount :=
  if right.raw ≤ left.raw then new (left.raw - right.raw) else .error (.outOfBounds 0)

def one : TokenAmount := ⟨1, le_refl _, by decide⟩

theorem new_of_within {raw : Nat} (low : 1 ≤ raw) (high : raw ≤ MAX_RAW) :
    new raw = .ok ⟨raw, low, high⟩ := by
  simp [new, low, high]

theorem new_raw {raw : Nat} {amount : TokenAmount} (made : new raw = .ok amount) :
    amount.raw = raw := by
  unfold new at made
  split at made
  · cases made; rfl
  · cases made

theorem checkedAdd_raw {left right sum : TokenAmount} (added : left.checkedAdd right = .ok sum) :
    sum.raw = left.raw + right.raw :=
  new_raw added

theorem checkedAdd_of_le {left right : TokenAmount} (small : left.raw + right.raw ≤ MAX_RAW) :
    left.checkedAdd right = .ok ⟨left.raw + right.raw, by have := left.pos; omega, small⟩ :=
  new_of_within _ small

end TokenAmount

structure Token where
  tokenId : TokenId
  amount : TokenAmount
  deriving DecidableEq, Repr

/-- Units of one token id in a token list. -/
def tokenAmountOf (id : TokenId) (tokens : List Token) : Nat :=
  (tokens.map fun token => if token.tokenId = id then token.amount.raw else 0).sum

@[simp] theorem tokenAmountOf_nil (id : TokenId) : tokenAmountOf id [] = 0 := rfl

@[simp] theorem tokenAmountOf_cons (id : TokenId) (token : Token) (tokens : List Token) :
    tokenAmountOf id (token :: tokens) =
      (if token.tokenId = id then token.amount.raw else 0) + tokenAmountOf id tokens := by
  simp [tokenAmountOf]

@[simp] theorem tokenAmountOf_append (id : TokenId) (first second : List Token) :
    tokenAmountOf id (first ++ second) = tokenAmountOf id first + tokenAmountOf id second := by
  simp [tokenAmountOf]

/-- A box before it is part of a transaction. -/
structure ErgoBoxCandidate where
  value : BoxValue
  ergoTree : ErgoTree
  tokens : List Token
  additionalRegisters : List Constant
  creationHeight : Nat
  deriving DecidableEq, Repr

/-- A box output by a transaction, identified by its id. -/
structure ErgoBox extends ErgoBoxCandidate where
  transactionId : TxId
  index : Nat
  boxId : BoxId
  deriving DecidableEq, Repr

/-- `ErgoBox::from_box_candidate`.  The box id is the hash of the serialized box; the model
uses the pairing of transaction id and output index, which is injective as the hash is
taken to be. -/
def ErgoBox.fromBoxCandidate (candidate : ErgoBoxCandidate) (transactionId : TxId)
    (index : Nat) : ErgoBox :=
  { candidate with transactionId, index, boxId := ⟨Nat.pair transactionId.digest index⟩ }

@[simp] theorem ErgoBox.fromBoxCandidate_toErgoBoxCandidate (candidate : ErgoBoxCandidate)
    (transactionId : TxId) (index : Nat) :
    (ErgoBox.fromBoxCandidate candidate transactionId index).toErgoBoxCandidate = candidate :=
  rfl

/-- Total nanoERG held by a list of boxes. -/
def boxesValue (boxes : List ErgoBoxCandidate) : Nat :=
  (boxes.map fun box => box.value.raw).sum

/-- Total units of one token id held by a list of boxes. -/
def boxesTokenAmount (id : TokenId) (boxes : List ErgoBoxCandidate) : Nat :=
  (boxes.map fun box => tokenAmountOf id box.tokens).sum

@[simp] theorem boxesValue_nil : boxesValue [] = 0 := rfl

@[simp] theorem boxesValue_cons (box : ErgoBoxCandidate) (boxes : List ErgoBoxCandidate) :
    boxesValue (box :: boxes) = box.value.raw + boxesValue boxes := by
  simp [boxesValue]

@[simp] theorem boxesValue_append (first second : List ErgoBoxCandidate) :
    boxesValue (first ++ second) = boxesValue first + boxesValue second := by
  simp [boxesValue]

@[simp] theorem boxesTokenAmount_nil (id : TokenId) : boxesTokenAmount id [] = 0 := rfl

@[simp] theorem boxesTokenAmount_cons (id : TokenId) (box : ErgoBoxCandidate)
    (boxes : List ErgoBoxCandidate) :
    boxesTokenAmount id (box :: boxes) =
      tokenAmountOf id box.tokens + boxesTokenAmount id boxes := by
  simp [boxesTokenAmount]

@[simp] theorem boxesTokenAmount_append (id : TokenId) (first second : List ErgoBoxCandidate) :
    boxesTokenAmount id (first ++ second) =
      boxesTokenAmount id first + boxesTokenAmount id second := by
  simp [boxesTokenAmount]

end OracleCore
