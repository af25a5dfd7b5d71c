import OracleCore.Chain.Transaction

/-!
# Datapoint filtering of the refresh action

`filtered_oracle_boxes` sorts the oracle boxes by rate and then, while
`deviation_check` rejects the list, removes one box with
`remove_largest_local_deviation_datapoint`, failing once fewer than
`min_data_points` boxes remain.  The model follows the source statement by
statement, with Rust's debug-build semantics: an index out of range, a `u64`
product above `2^64` or a subtraction below zero panics.

The source declares `Vec` as the result and passes a `Vec` where a
`BoundedVec` is expected, while using `?` and `return Err(..)`; the model
takes the evident meaning, a `Result`, and passes the list itself.
-/

namespace OracleCore

/-- Failures the oracle-pool stages report. -/
inductive StageError where
  | scanMissing
  | boxParse (reason : String)
  deriving DecidableEq, Repr

inductive PoolCommandError where
  | stage (error : StageError)
  | node (error : NodeError)
  | boxSelector (error : BoxSelectorError)
  | txBuilder (error : TxBuilderError)
  | notEnoughOracleBoxes (found expected : Nat)
  | failedToReachConsensus
  | missingRegister
  | rewardTokens (error : TokenAmountError)
  deriving DecidableEq, Repr

/-- The refresh contract's consensus parameters, both `u32` in the source; the contract
module is not part of the sources, and `RefreshContract::new()` reads them from the
contract. -/
structure RefreshContract where
  minDataPoints : Nat
  maxDeviationPercent : Nat
  minDataPoints_lt : minDataPoints < 2 ^ 32
  maxDeviationPercent_lt : maxDeviationPercent < 2 ^ 32
  deriving DecidableEq, Repr

/-- The parameters of `RefreshContractParameters::default()` in `default_parameters.rs`. -/
def RefreshContract.default : RefreshContract := ⟨4, 5, by decide, by decide⟩

/-- The typed view of an oracle's datapoint box (the `OracleBox` trait): the raw box with
the values its accessors return, each tied to the box at construction: the operator's key
in R4, the epoch counter in R5, the rate, a `u64`, in R6, and the oracle and reward tokens. -/
structure OracleBox where
  ergoBox : ErgoBox
  publicKey : EcPoint
  epochCounter : Int
  rate : Nat
  oracleToken : Token
  rewardToken : Token
  rate_lt : rate < 2 ^ 64
  tokens_eq : ergoBox.tokens = [oracleToken, rewardToken]
  r4_eq : ergoBox.additionalRegisters[0]? = some (.groupElement publicKey)
  r5_eq : ergoBox.additionalRegisters[1]? = some (.int epochCounter)
  r6_eq : ergoBox.additionalRegisters[2]? = some (.long rate)
  deriving DecidableEq

namespace OracleBox

def value (oracleBox : OracleBox) : BoxValue := oracleBox.ergoBox.value

def ergoTree (oracleBox : OracleBox) : ErgoTree := oracleBox.ergoBox.ergoTree

def getBox (oracleBox : OracleBox) : ErgoBox := oracleBox.ergoBox

end OracleBox

/-- Rates of a list of boxes, in order. -/
def rates (boxes : List OracleBox) : List Nat := boxes.map OracleBox.rate

/-- The order `sort_by_key(|b| b.rate())` sorts by. -/
def RateLe (first second : OracleBox) : Prop := first.rate ≤ second.rate

instance : DecidableRel RateLe := fun first second => Nat.decLe first.rate second.rate

instance : IsTotal OracleBox RateLe := ⟨fun first second => le_total first.rate second.rate⟩

instance : IsTrans OracleBox RateLe := ⟨fun _ _ _ => le_trans⟩

/-- `sort_by_key(|b| b.rate())`, a stable sort; insertion sort is stable as well, so it
computes the same list as the library's merge sort. -/
def sortByRate (boxes : List OracleBox) : List OracleBox := boxes.insertionSort RateLe

/-- `vec[index]`. -/
def getIndex (items : List α) (index : Nat) : Except (Fault ε) α :=
  match items[index]? with
  | some item => .ok item
  | none => .error (.panic .indexOutOfBounds)

/-- `left * right` on `u64`. -/
def checkedMul (left right : Nat) : Except (Fault ε) Nat :=
  if left * right < 2 ^ 64 then .ok (left * right) else .error (.panic .arithmeticOverflow)

/-- `value as i64` for a `u64`: the bits read as two's complement. -/
def asI64 (value : Nat) : Int := if value < 2 ^ 63 then value else (value : Int) - 2 ^ 64

/-- `left - right` on `i64`. -/
def checkedSubI64 (left right : Int) : Except (Fault ε) Int :=
  if -2 ^ 63 ≤ left - right ∧ left - right < 2 ^ 63 then .ok (left - right)
  else .error (.panic .arithmeticOverflow)

abbrev Refresh := Except (Fault PoolCommandError)

/-- `deviation_check`. -/
def deviationCheck (deviationRange : Nat) (datapointBoxes : List OracleBox) : Refresh Bool := do
  let num := datapointBoxes.length
  let maxDatapoint := (← getIndex datapointBoxes 0).rate
  let minDatapoint := (← getIndex datapointBoxes (← checkedSub num 1)).rate
  let deviationDelta := (← checkedMul maxDatapoint deviationRange) / 100
  pure (decide (minDatapoint ≥ (← checkedSub maxDatapoint deviationDelta)))

/-- `remove_largest_local_deviation_datapoint`: `drain(0..1)` drops the first box, `pop()`
the last. -/
def removeLargestLocalDeviationDatapoint (datapointBoxes : List OracleBox) :
    Refresh (List OracleBox) :=
  if datapointBoxes.length ≤ 2 then .error (.error .failedToReachConsensus)
  else do
    let dpLen := datapointBoxes.length
    let datapoints ← datapointBoxes.mapM fun _ => do
      pure (asI64 (← getIndex datapointBoxes 0).rate)
    let frontDeviation ← checkedSubI64 (← getIndex datapoints 0) (← getIndex datapoints 1)
    let backDeviation ←
      checkedSubI64 (← getIndex datapoints (dpLen - 2)) (← getIndex datapoints (dpLen - 1))
    if frontDeviation ≥ backDeviation then pure datapointBoxes.tail
    else pure datapointBoxes.dropLast

theorem removeLargestLocalDeviationDatapoint_length {datapointBoxes remaining : List OracleBox}
    (removed : removeLargestLocalDeviationDatapoint datapointBoxes = .ok remaining) :
    remaining.length + 1 = datapointBoxes.length := by
  unfold removeLargestLocalDeviationDatapoint at removed
  split at removed
  · cases removed
  · next long =>
      simp only [bind, Except.bind, pure, Except.pure] at removed
      repeat' split at removed
      all_goals first
        | (cases removed; simp; omega)
        | cases removed

/-- The `while` loop of `filtered_oracle_boxes`. -/
def filterLoop (refreshContract : RefreshContract) (successfulBoxes : List OracleBox) :
    Refresh (List OracleBox) :=
  match deviationCheck refreshContract.maxDeviationPercent successfulBoxes with
  | .error fault => .error fault
  | .ok true => .ok successfulBoxes
  | .ok false =>
    match removed : removeLargestLocalDeviationDatapoint successfulBoxes with
    | .error fault => .error fault
    | .ok remaining =>
      if remaining.length % 2 ^ 32 < refreshContract.minDataPoints then
        .error (.error .failedToReachConsensus)
      else filterLoop refreshContract remaining
termination_by successfulBoxes.length
decreasing_by
  have := removeLargestLocalDeviationDatapoint_length removed
  omega

/-- `filtered_oracle_boxes`. -/
def filteredOracleBoxes (refreshContract : RefreshContract) (oracleBoxes : List OracleBox) :
    Refresh (List OracleBox) :=
  filterLoop refreshContract (sortByRate oracleBoxes)

end OracleCore

namespace OracleCore

@[simp] theorem getIndex_nil (index : Nat) :
    (getIndex ([] : List α) index : Except (Fault ε) α) = .error (.panic .indexOutOfBounds) := rfl

theorem getIndex_of_lt {items : List α} {index : Nat} (inside : index < items.length) :
    (getIndex items index : Except (Fault ε) α) = .ok items[index] := by
  simp [getIndex, inside]

@[simp] theorem getIndex_cons_zero (item : α) (items : List α) :
    (getIndex (item :: items) 0 : Except (Fault ε) α) = .ok item := by
  simp [getIndex]

theorem checkedMul_of_lt {left right : Nat} (small : left * right < 2 ^ 64) :
    (checkedMul left right : Except (Fault ε) Nat) = .ok (left * right) := by
  rw [checkedMul, if_pos small]

theorem checkedMul_of_not_lt {left right : Nat} (large : ¬ left * right < 2 ^ 64) :
    (checkedMul left right : Except (Fault ε) Nat) = .error (.panic .arithmeticOverflow) := by
  rw [checkedMul, if_neg large]

/-- `deviation_check` reads nothing but the rates of the first and the last box. -/
def deviationCheckOnRates (deviationRange : Nat) : List Nat → Refresh Bool
  | [] => .error (.panic .indexOutOfBounds)
  | first :: rest => do
    let deviationDelta := (← checkedMul first deviationRange) / 100
    pure (decide ((first :: rest).getLast (List.cons_ne_nil _ _) ≥
      (← checkedSub first deviationDelta)))

theorem rates_getLast (first : OracleBox) (rest : List OracleBox) :
    (first.rate :: rest.map OracleBox.rate).getLast (List.cons_ne_nil _ _) =
      (first :: rest)[rest.length].rate := by
  rw [List.getLast_eq_getElem]
  simp only [List.length_cons, List.length_map, Nat.add_sub_cancel]
  exact @List.getElem_map _ _ OracleBox.rate (first :: rest) rest.length _

theorem deviationCheck_eq (deviationRange : Nat) (boxes : List OracleBox) :
    deviationCheck deviationRange boxes = deviationCheckOnRates deviationRange (rates boxes) := by
  cases boxes with
  | nil => rfl
  | cons first rest =>
      have lastIndex : rest.length < (first :: rest).length := by simp
      simp only [deviationCheck, deviationCheckOnRates, rates, List.map_cons, List.length_cons,
        getIndex_cons_zero, checkedSub_of_le (Nat.le_add_left 1 rest.length),
        Nat.add_sub_cancel, getIndex_of_lt lastIndex, bind, Except.bind, pure, Except.pure,
        rates_getLast]

@[simp] theorem rates_length (boxes : List OracleBox) : (rates boxes).length = boxes.length :=
  List.length_map _ _

theorem mapM_const_ok (items : List α) (value : β) :
    (items.mapM fun _ => (Except.ok value : Except ε β)) = .ok (List.replicate items.length value) := by
  induction items with
  | nil => rfl
  | cons item items induction =>
      simp only [List.mapM_cons, induction, bind, Except.bind, pure, Except.pure,
        List.length_cons, List.replicate_succ]

/-- Every datapoint the source compares is the first box's rate, so both deviations are
zero and the first box is the one removed. -/
theorem removeLargestLocalDeviationDatapoint_eq (datapointBoxes : List OracleBox) :
    removeLargestLocalDeviationDatapoint datapointBoxes =
      if datapointBoxes.length ≤ 2 then .error (.error .failedToReachConsensus)
      else .ok datapointBoxes.tail := by
  unfold removeLargestLocalDeviationDatapoint
  split
  · rfl
  · next long =>
      obtain ⟨first, rest, rfl⟩ : ∃ first rest, datapointBoxes = first :: rest :=
        List.exists_cons_of_ne_nil (by rintro rfl; simp at long)
      simp only [List.length_cons] at long ⊢
      have datapoints := mapM_const_ok (ε := Fault PoolCommandError) (first :: rest)
        (asI64 first.rate)
      have zero : checkedSubI64 (ε := PoolCommandError) (asI64 first.rate) (asI64 first.rate) =
          .ok 0 := by
        simp [checkedSubI64]
      simp only [getIndex_cons_zero, bind, Except.bind, pure, Except.pure] at datapoints ⊢
      simp only [datapoints, List.length_replicate]
      have inside : ∀ index, index ≤ rest.length →
          index < (List.replicate (first :: rest).length (asI64 first.rate)).length := by
        intro index below
        rw [List.length_replicate, List.length_cons]
        omega
      rw [getIndex_of_lt (inside 0 (by omega)), getIndex_of_lt (inside 1 (by omega)),
        getIndex_of_lt (inside _ (by omega)), getIndex_of_lt (inside _ (by omega))]
      simp [zero]

/-- The removal reads only the length of its list, and drops the first box. -/
theorem removeLargestLocalDeviationDatapoint_congr {first second : List OracleBox}
    (sameLength : first.length = second.length) :
    removeLargestLocalDeviationDatapoint second =
      (removeLargestLocalDeviationDatapoint first).map fun _ => second.tail := by
  rw [removeLargestLocalDeviationDatapoint_eq, removeLargestLocalDeviationDatapoint_eq, sameLength]
  split <;> rfl

theorem removeLargestLocalDeviationDatapoint_of_ok {boxes remaining : List OracleBox}
    (removed : removeLargestLocalDeviationDatapoint boxes = .ok remaining) :
    remaining = boxes.tail := by
  have dropsFirst := @removeLargestLocalDeviationDatapoint_congr boxes boxes rfl
  rw [removed] at dropsFirst
  exact Except.ok.inj dropsFirst

theorem rates_tail (boxes : List OracleBox) : rates boxes.tail = (rates boxes).tail :=
  List.map_tail _ _

theorem length_eq_of_rates_eq {first second : List OracleBox} (same : rates first = rates second) :
    first.length = second.length := by
  rw [← rates_length first, same, rates_length]

theorem deviationCheck_congr (deviationRange : Nat) {first second : List OracleBox}
    (same : rates first = rates second) :
    deviationCheck deviationRange first = deviationCheck deviationRange second := by
  rw [deviationCheck_eq, deviationCheck_eq, same]

section Step

variable {refreshContract : RefreshContract} {boxes : List OracleBox}

theorem filterLoop_of_check_error {fault : Fault PoolCommandError}
    (rejected : deviationCheck refreshContract.maxDeviationPercent boxes = .error fault) :
    filterLoop refreshContract boxes = .error fault := by
  rw [filterLoop, rejected]

theorem filterLoop_of_check_pass
    (passed : deviationCheck refreshContract.maxDeviationPercent boxes = .ok true) :
    filterLoop refreshContract boxes = .ok boxes := by
  rw [filterLoop, passed]

theorem filterLoop_of_removal_error {fault : Fault PoolCommandError}
    (failedCheck : deviationCheck refreshContract.maxDeviationPercent boxes = .ok false)
    (failedRemoval : removeLargestLocalDeviationDatapoint boxes = .error fault) :
    filterLoop refreshContract boxes = .error fault := by
  rw [filterLoop, failedCheck]
  split <;> (try split) <;> simp_all

theorem filterLoop_of_removal {remaining : List OracleBox}
    (failedCheck : deviationCheck refreshContract.maxDeviationPercent boxes = .ok false)
    (removed : removeLargestLocalDeviationDatapoint boxes = .ok remaining) :
    filterLoop refreshContract boxes =
      if remaining.length % 2 ^ 32 < refreshContract.minDataPoints then
        .error (.error .failedToReachConsensus)
      else filterLoop refreshContract remaining := by
  rw [filterLoop, failedCheck]
  split <;> (try split) <;> simp_all

end Step

/-- The loop reads only rates: on two lists with the same rates it ends the same way, with
survivors of the same rates. -/
theorem filterLoop_congr (refreshContract : RefreshContract) {first second : List OracleBox}
    (same : rates first = rates second) :
    (filterLoop refreshContract first).map rates =
      (filterLoop refreshContract second).map rates := by
  have sameLength := length_eq_of_rates_eq same
  induction first using filterLoop.induct refreshContract generalizing second with
  | case1 boxes fault rejected =>
      rw [filterLoop_of_check_error rejected,
        filterLoop_of_check_error ((deviationCheck_congr _ same).symm.trans rejected)]
  | case2 boxes passed =>
      rw [filterLoop_of_check_pass passed,
        filterLoop_of_check_pass ((deviationCheck_congr _ same).symm.trans passed)]
      simp [Except.map, same]
  | case3 boxes failedCheck fault failedRemoval =>
      rw [filterLoop_of_removal_error failedCheck failedRemoval, filterLoop_of_removal_error
        ((deviationCheck_congr _ same).symm.trans failedCheck)
        (by rw [removeLargestLocalDeviationDatapoint_congr sameLength, failedRemoval]; rfl)]
  | case4 boxes failedCheck remaining removed short =>
      have secondRemoved : removeLargestLocalDeviationDatapoint second = .ok second.tail := by
        rw [removeLargestLocalDeviationDatapoint_congr sameLength, removed]; rfl
      have tailLength : second.tail.length = remaining.length := by
        rw [removeLargestLocalDeviationDatapoint_of_ok removed, List.length_tail,
          List.length_tail, sameLength]
      rw [filterLoop_of_removal failedCheck removed, filterLoop_of_removal
        ((deviationCheck_congr _ same).symm.trans failedCheck) secondRemoved, tailLength,
        if_pos short, if_pos short]
  | case5 boxes failedCheck remaining removed long induction =>
      have secondRemoved : removeLargestLocalDeviationDatapoint second = .ok second.tail := by
        rw [removeLargestLocalDeviationDatapoint_congr sameLength, removed]; rfl
      have sameTail : rates remaining = rates second.tail := by
        rw [removeLargestLocalDeviationDatapoint_of_ok removed, rates_tail, rates_tail, same]
      rw [filterLoop_of_removal failedCheck removed, filterLoop_of_removal
        ((deviationCheck_congr _ same).symm.trans failedCheck) secondRemoved,
        ← length_eq_of_rates_eq sameTail, if_neg long, if_neg long]
      exact induction sameTail (length_eq_of_rates_eq sameTail)

theorem sortByRate_perm (boxes : List OracleBox) : (sortByRate boxes).Perm boxes :=
  List.perm_insertionSort RateLe boxes

theorem rates_sortByRate_sorted (boxes : List OracleBox) :
    (rates (sortByRate boxes)).Sorted (· ≤ ·) :=
  List.pairwise_map.mpr (List.sorted_insertionSort RateLe boxes)

/-- Sorting forgets the input order: two orderings of one list sort to the same rates. -/
theorem rates_sortByRate_eq_of_perm {first second : List OracleBox}
    (reordered : first.Perm second) : rates (sortByRate first) = rates (sortByRate second) :=
  List.eq_of_perm_of_sorted
    ((((sortByRate_perm first).trans reordered).trans (sortByRate_perm second).symm).map _)
    (rates_sortByRate_sorted first) (rates_sortByRate_sorted second)

section Datapoints

def oracleNft : Token := ⟨⟨1⟩, TokenAmount.one⟩

def fiveRewardTokens : Token := ⟨⟨2⟩, ⟨5, by decide, by decide⟩⟩

/-- A datapoint box as the refresh test builds one: the oracle token and five reward
tokens, the operator's key, the epoch and the rate in R4 to R6. -/
def datapointBox (rate : Nat) (epoch : Int) (small : rate < 2 ^ 64) : OracleBox where
  ergoBox := ⟨⟨BoxValue.SAFE_USER_MIN, ⟨7⟩, [oracleNft, fiveRewardTokens],
    [.groupElement ⟨rate⟩, .int epoch, .long rate], 91⟩, ⟨rate⟩, 0, ⟨rate⟩⟩
  publicKey := ⟨rate⟩
  epochCounter := epoch
  rate := rate
  oracleToken := oracleNft
  rewardToken := fiveRewardTokens
  rate_lt := small
  tokens_eq := rfl
  r4_eq := rfl
  r5_eq := rfl
  r6_eq := rfl

/-- The spec's outlier example: rates 100, 101, 102, 103 and 200. -/
def spreadBoxes : List OracleBox :=
  [datapointBox 100 1 (by decide), datapointBox 101 1 (by decide), datapointBox 102 1 (by decide),
    datapointBox 103 1 (by decide), datapointBox 200 1 (by decide)]

end Datapoints

/-- However the datapoint stage orders the boxes, filtering ends the same way: with the same
error, the same panic, or survivors of the same rates. -/
theorem filteredOracleBoxes_perm (refreshContract : RefreshContract)
    {first second : List OracleBox} (reordered : first.Perm second) :
    (filteredOracleBoxes refreshContract first).map rates =
      (filteredOracleBoxes refreshContract second).map rates :=
  filterLoop_congr refreshContract (rates_sortByRate_eq_of_perm reordered)

theorem filteredOracleBoxes_perm_reverse :
    spreadBoxes.Perm spreadBoxes.reverse ∧
      (filteredOracleBoxes RefreshContract.default spreadBoxes).map rates =
        (filteredOracleBoxes RefreshContract.default spreadBoxes.reverse).map rates :=
  ⟨(List.reverse_perm _).symm, filteredOracleBoxes_perm _ (List.reverse_perm _).symm⟩

theorem first_le_getLast {first : Nat} {rest : List Nat}
    (sorted : (first :: rest).Sorted (· ≤ ·)) :
    first ≤ (first :: rest).getLast (List.cons_ne_nil _ _) := by
  rcases List.mem_cons.mp (List.getLast_mem (List.cons_ne_nil first rest)) with isFirst | later
  · exact le_of_eq isFirst.symm
  · exact List.rel_of_sorted_cons sorted _ later

/-- On rates sorted upward the check reads the smallest rate as `max_datapoint` and the
largest as `min_datapoint`, so with a deviation of at most 100 percent it passes unless the
product overflows. -/
theorem deviationCheckOnRates_sorted {deviationRange first : Nat} {rest : List Nat}
    (sorted : (first :: rest).Sorted (· ≤ ·)) (bounded : deviationRange ≤ 100) :
    deviationCheckOnRates deviationRange (first :: rest) =
      if first * deviationRange < 2 ^ 64 then .ok true
      else .error (.panic .arithmeticOverflow) := by
  have delta : first * deviationRange / 100 ≤ first :=
    Nat.div_le_of_le_mul (by rw [Nat.mul_comm 100]; exact Nat.mul_le_mul_left _ bounded)
  have passes := first_le_getLast sorted
  simp only [deviationCheckOnRates]
  by_cases small : first * deviationRange < 2 ^ 64
  · rw [checkedMul_of_lt small, if_pos small]
    simp only [bind, Except.bind, checkedSub_of_le delta, pure, Except.pure, Except.ok.injEq,
      decide_eq_true_eq]
    omega
  · rw [checkedMul_of_not_lt small, if_neg small]
    rfl

/-- For any deviation range, the check on sorted rates never rejects: it passes or panics. -/
theorem deviationCheckOnRates_sorted_passes {deviationRange : Nat} {sortedRates : List Nat}
    (sorted : sortedRates.Sorted (· ≤ ·)) :
    deviationCheckOnRates deviationRange sortedRates = .ok true ∨
      ∃ site, deviationCheckOnRates deviationRange sortedRates = .error (.panic site) := by
  cases sortedRates with
  | nil => exact .inr ⟨_, rfl⟩
  | cons first rest =>
      have passes := first_le_getLast sorted
      simp only [deviationCheckOnRates]
      by_cases small : first * deviationRange < 2 ^ 64
      · rw [checkedMul_of_lt small]
        by_cases below : first * deviationRange / 100 ≤ first
        · left
          simp only [bind, Except.bind, checkedSub_of_le below, pure, Except.pure,
            Except.ok.injEq, decide_eq_true_eq]
          omega
        · right
          simp [checkedSub, below, bind, Except.bind]
      · right
        rw [checkedMul_of_not_lt small]
        exact ⟨_, rfl⟩

/-- The loop body is dead code: from the sorted list `filtered_oracle_boxes` makes, the loop
returns the whole list or panics, and never removes a box. -/
theorem filteredOracleBoxes_whole (refreshContract : RefreshContract) (oracleBoxes : List OracleBox) :
    filteredOracleBoxes refreshContract oracleBoxes = .ok (sortByRate oracleBoxes) ∨
      ∃ site, filteredOracleBoxes refreshContract oracleBoxes = .error (.panic site) := by
  unfold filteredOracleBoxes
  rcases @deviationCheckOnRates_sorted_passes refreshContract.maxDeviationPercent _
    (rates_sortByRate_sorted oracleBoxes) with passed | ⟨site, panicked⟩
  · rw [← deviationCheck_eq] at passed
    exact .inl (filterLoop_of_check_pass passed)
  · rw [← deviationCheck_eq] at panicked
    exact .inr ⟨site, filterLoop_of_check_error panicked⟩

/-- With a deviation range of at most 100 percent, what `filtered_oracle_boxes` does: it
panics on no boxes, panics when the smallest rate times the range overflows `u64`, and
otherwise returns every box, sorted. -/
theorem filteredOracleBoxes_eq {refreshContract : RefreshContract}
    (bounded : refreshContract.maxDeviationPercent ≤ 100) (oracleBoxes : List OracleBox) :
    filteredOracleBoxes refreshContract oracleBoxes =
      match sortByRate oracleBoxes with
      | [] => .error (.panic .indexOutOfBounds)
      | first :: rest =>
        if first.rate * refreshContract.maxDeviationPercent < 2 ^ 64 then .ok (first :: rest)
        else .error (.panic .arithmeticOverflow) := by
  unfold filteredOracleBoxes
  have sorted := rates_sortByRate_sorted oracleBoxes
  generalize sortByRate oracleBoxes = sortedBoxes at sorted ⊢
  cases sortedBoxes with
  | nil => exact filterLoop_of_check_error rfl
  | cons first rest =>
      have check : deviationCheck refreshContract.maxDeviationPercent (first :: rest) =
          if first.rate * refreshContract.maxDeviationPercent < 2 ^ 64 then .ok true
          else .error (.panic .arithmeticOverflow) :=
        (deviationCheck_eq _ _).trans (deviationCheckOnRates_sorted sorted bounded)
      dsimp only
      split
      · next small => exact filterLoop_of_check_pass (check.trans (if_pos small))
      · next large => exact filterLoop_of_check_error (check.trans (if_neg large))

/-- With the default contract (five percent, four data points) the spread list is returned
whole, although its smallest rate is below the largest minus five percent of it. -/
theorem filteredOracleBoxes_keeps_spread :
    (filteredOracleBoxes RefreshContract.default spreadBoxes).map rates =
        .ok [100, 101, 102, 103, 200] ∧
      ¬ 100 ≥ 200 - 200 * RefreshContract.default.maxDeviationPercent / 100 := by
  rw [filteredOracleBoxes_eq (by decide)]
  exact ⟨rfl, by decide⟩

/-- On the spread list the outlier remover drops the box of rate 100, not the one of 200. -/
theorem removeLargestLocalDeviationDatapoint_drops_first :
    (removeLargestLocalDeviationDatapoint spreadBoxes).map rates = .ok [101, 102, 103, 200] := by
  rw [removeLargestLocalDeviationDatapoint_eq]
  rfl

end OracleCore
