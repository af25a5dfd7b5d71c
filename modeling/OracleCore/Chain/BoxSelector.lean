import OracleCore.Chain.Box

/-!
# Input selection

`SimpleBoxSelector::select` of `ergo-lib` first sorts the candidate inputs by
how many target tokens each holds (`sort_by`, a stable sort) and reverses them:
boxes holding more target tokens come first and, among equal ones, the later
input comes first.  It then passes once over them and takes a box while the
boxes taken so far fall short of the target value, or leave a value change
below `SAFE_USER_MIN`, or lack a target token the box holds, or leave token
change with a value change below `SAFE_USER_MIN`.  The boxes taken must reach
the target value and tokens; their surplus value and tokens make one change box.

So a selection is a subsequence of the sorted and reversed inputs, not a
prefix of the inputs: with no target tokens the last input is looked at first.
-/

namespace OracleCore

/-- Value and tokens of a change box, before it is given a guard. -/
structure ErgoBoxAssetsData where
  value : BoxValue
  tokens : List Token
  deriving DecidableEq, Repr

/-- The inputs chosen for a transaction, never empty, and the change they leave. -/
structure BoxSelection where
  boxes : List ErgoBox
  boxes_ne : boxes ≠ []
  changeBoxes : List ErgoBoxAssetsData

/-- `box_selection.boxes.first()`. -/
def BoxSelection.first (selection : BoxSelection) : ErgoBox :=
  selection.boxes.head selection.boxes_ne

inductive BoxSelectorError where
  | notEnoughCoins (missing : Nat)
  | notEnoughTokens
  | notEnoughCoinsForChangeBox (missing : Nat)
  | changeValue (error : BoxValueError)
  | changeTokenAmount (error : TokenAmountError)
  deriving DecidableEq, Repr

/-- Tokens of a list of boxes, in order. -/
def boxTokens (boxes : List ErgoBox) : List Token :=
  boxes.flatMap fun box => box.tokens

/-- nanoERG held by a list of boxes. -/
def boxValue (boxes : List ErgoBox) : Nat :=
  boxesValue (boxes.map ErgoBox.toErgoBoxCandidate)

@[simp] theorem boxValue_nil : boxValue [] = 0 := rfl

@[simp] theorem boxValue_cons (box : ErgoBox) (boxes : List ErgoBox) :
    boxValue (box :: boxes) = box.value.raw + boxValue boxes := by
  simp [boxValue]

@[simp] theorem boxValue_append (first second : List ErgoBox) :
    boxValue (first ++ second) = boxValue first + boxValue second := by
  simp [boxValue]

theorem value_le_boxValue {box : ErgoBox} {boxes : List ErgoBox} (member : box ∈ boxes) :
    box.value.raw ≤ boxValue boxes := by
  induction boxes with
  | nil => cases member
  | cons head tail induction =>
      rw [boxValue_cons]
      rcases List.mem_cons.mp member with rfl | later
      · omega
      · have := induction later; omega

@[simp] theorem boxTokens_nil : boxTokens [] = [] := rfl

@[simp] theorem boxTokens_cons (box : ErgoBox) (boxes : List ErgoBox) :
    boxTokens (box :: boxes) = box.tokens ++ boxTokens boxes := by
  simp [boxTokens]

@[simp] theorem boxTokens_append (first second : List ErgoBox) :
    boxTokens (first ++ second) = boxTokens first ++ boxTokens second := by
  simp [boxTokens]

/-- Per token id, the units of `selected` beyond those of `targets`, for every id with a
surplus (the selector's `HashMap` of token sums, in first-occurrence order). -/
def tokenSurplus (selected targets : List Token) : List (TokenId × Nat) :=
  ((selected.map Token.tokenId).dedup.map fun id =>
    (id, tokenAmountOf id selected - tokenAmountOf id targets)).filter fun entry => entry.2 ≠ 0

/-- The selected tokens cover every target token. -/
def coversTokens (targets selected : List Token) : Bool :=
  targets.all fun target => tokenAmountOf target.tokenId targets ≤ tokenAmountOf target.tokenId selected

/-- The selection needs a change box: surplus value or surplus tokens. -/
def changeNeeded (targetBalance : BoxValue) (targetTokens : List Token) (boxes : List ErgoBox) :
    Bool :=
  targetBalance.raw < boxValue boxes || !(tokenSurplus (boxTokens boxes) targetTokens).isEmpty

/-- How many of a box's tokens have the id of a target token: the selector's sort key. -/
def targetTokensCount (targetTokens : List Token) (box : ErgoBox) : Nat :=
  box.tokens.countP fun token => token.tokenId ∈ targetTokens.map Token.tokenId

/-- `sort_by` on that count, then `reverse()`. -/
def sortInputs (targetTokens : List Token) (inputs : List ErgoBox) : List ErgoBox :=
  (inputs.insertionSort fun first second =>
    targetTokensCount targetTokens first ≤ targetTokensCount targetTokens second).reverse

section Walk

variable (targetBalance : BoxValue) (targetTokens : List Token)

/-- The test of the selector's loop for the next box, after the boxes `taken`: the target value
is not reached; or the value change is positive and below `SAFE_USER_MIN`; or the box holds a
target token still lacking; or there is token change and the value change is below
`SAFE_USER_MIN`. -/
def takesBox (taken : List ErgoBox) (box : ErgoBox) : Bool :=
  boxValue taken < targetBalance.raw ||
    (targetBalance.raw < boxValue taken &&
      boxValue taken - targetBalance.raw < BoxValue.SAFE_USER_MIN.raw) ||
    box.tokens.any (fun token =>
      tokenAmountOf token.tokenId (boxTokens taken) < tokenAmountOf token.tokenId targetTokens) ||
    (!(tokenSurplus (boxTokens taken) targetTokens).isEmpty &&
      boxValue taken - targetBalance.raw < BoxValue.SAFE_USER_MIN.raw)

/-- The selector's `for_each` over the sorted inputs: each box is taken or passed over. -/
def walk : List ErgoBox → List ErgoBox → List ErgoBox
  | taken, [] => taken
  | taken, box :: rest =>
    walk (if takesBox targetBalance targetTokens taken box then taken ++ [box] else taken) rest

end Walk

/-- The surplus tokens as tokens: each surplus must itself be a valid amount. -/
def changeTokens (selected targets : List Token) : Except TokenAmountError (List Token) :=
  (tokenSurplus selected targets).mapM fun entry =>
    (TokenAmount.new entry.2).map fun amount => Token.mk entry.1 amount

/-- The change left by a selection, as the library builds it: none when the selection is
exact, otherwise one box with the surplus value and tokens. -/
def changeBoxes (targetBalance : BoxValue) (targetTokens : List Token) (boxes : List ErgoBox) :
    Except BoxSelectorError (List ErgoBoxAssetsData) :=
  if changeNeeded targetBalance targetTokens boxes then do
    let value ← (BoxValue.new (boxValue boxes - targetBalance.raw)).mapError .changeValue
    let tokens ← (changeTokens (boxTokens boxes) targetTokens).mapError .changeTokenAmount
    pure [⟨value, tokens⟩]
  else pure []

/-- `SimpleBoxSelector::select`: the loop over the sorted inputs, the checks that the boxes
taken reach the target value and tokens, and their change. -/
def SimpleBoxSelector.select (inputs : List ErgoBox) (targetBalance : BoxValue)
    (targetTokens : List Token) : Except BoxSelectorError BoxSelection :=
  match walk targetBalance targetTokens [] (sortInputs targetTokens inputs) with
  | [] => .error (.notEnoughCoins targetBalance.raw)
  | first :: rest =>
    if boxValue (first :: rest) < targetBalance.raw then
      .error (.notEnoughCoins (targetBalance.raw - boxValue (first :: rest)))
    else if !coversTokens targetTokens (boxTokens (first :: rest)) then .error .notEnoughTokens
    else do
      let change ← changeBoxes targetBalance targetTokens (first :: rest)
      pure ⟨first :: rest, List.cons_ne_nil first rest, change⟩

theorem tokenAmountOf_perm (id : TokenId) {first second : List Token}
    (reordered : first.Perm second) : tokenAmountOf id first = tokenAmountOf id second :=
  (reordered.map _).sum_eq

theorem boxValue_perm {boxes others : List ErgoBox} (same : boxes.Perm others) :
    boxValue boxes = boxValue others :=
  ((same.map _).map _).sum_eq

theorem tokenAmountOf_boxTokens_perm (id : TokenId) {boxes others : List ErgoBox}
    (same : boxes.Perm others) :
    tokenAmountOf id (boxTokens boxes) = tokenAmountOf id (boxTokens others) :=
  tokenAmountOf_perm id (same.flatMap_right _)

theorem tokenAmountOf_boxTokens_le {id : TokenId} {fewer boxes : List ErgoBox}
    (sublist : fewer.Sublist boxes) :
    tokenAmountOf id (boxTokens fewer) ≤ tokenAmountOf id (boxTokens boxes) := by
  induction sublist with
  | slnil => rfl
  | cons box _ induction => simp only [boxTokens_cons, tokenAmountOf_append]; omega
  | cons₂ box _ induction => simp only [boxTokens_cons, tokenAmountOf_append]; omega

/-- Boxes cover the tokens some of them hold. -/
theorem coversTokens_of_sublist {targets : List Token} {holders boxes : List ErgoBox}
    (sublist : holders.Sublist boxes) (holding : (boxTokens holders).Perm targets) :
    coversTokens targets (boxTokens boxes) = true := by
  simp only [coversTokens, List.all_eq_true, decide_eq_true_eq]
  intro target _
  rw [← tokenAmountOf_perm _ holding]
  exact tokenAmountOf_boxTokens_le sublist

theorem tokenAmountOf_eq_zero {id : TokenId} {tokens : List Token}
    (absent : id ∉ tokens.map Token.tokenId) : tokenAmountOf id tokens = 0 := by
  induction tokens with
  | nil => rfl
  | cons token tokens induction =>
      simp only [List.map_cons, List.mem_cons, not_or] at absent
      simp [Ne.symm absent.1, induction absent.2]

/-- Boxes that cover the targets hold, per token id, at least the target units. -/
theorem coversTokens_le {targetTokens selected : List Token}
    (covered : coversTokens targetTokens selected = true) (id : TokenId) :
    tokenAmountOf id targetTokens ≤ tokenAmountOf id selected := by
  by_cases targeted : id ∈ targetTokens.map Token.tokenId
  · obtain ⟨target, member, rfl⟩ := List.mem_map.mp targeted
    simp only [coversTokens, List.all_eq_true, decide_eq_true_eq] at covered
    exact covered target member
  · rw [tokenAmountOf_eq_zero targeted]
    exact Nat.zero_le _

theorem coversTokens_of_le {targetTokens selected : List Token}
    (enough : ∀ id, tokenAmountOf id targetTokens ≤ tokenAmountOf id selected) :
    coversTokens targetTokens selected = true := by
  simp only [coversTokens, List.all_eq_true, decide_eq_true_eq]
  exact fun target _ => enough target.tokenId

section Walk

variable {targetBalance : BoxValue} {targetTokens : List Token}

theorem walk_nil (taken : List ErgoBox) : walk targetBalance targetTokens taken [] = taken := rfl

theorem walk_cons (taken : List ErgoBox) (box : ErgoBox) (rest : List ErgoBox) :
    walk targetBalance targetTokens taken (box :: rest) =
      walk targetBalance targetTokens
        (if takesBox targetBalance targetTokens taken box then taken ++ [box] else taken) rest :=
  rfl

/-- The loop keeps the boxes taken and adds a subsequence of the rest. -/
theorem walk_eq_append (taken rest : List ErgoBox) :
    ∃ chosen, chosen.Sublist rest ∧ walk targetBalance targetTokens taken rest = taken ++ chosen := by
  induction rest generalizing taken with
  | nil => exact ⟨[], .slnil, by simp [walk_nil]⟩
  | cons box rest induction =>
      rw [walk_cons]
      split
      · obtain ⟨chosen, sublist, walked⟩ := induction (taken ++ [box])
        exact ⟨box :: chosen, sublist.cons₂ box, by simp [walked]⟩
      · obtain ⟨chosen, sublist, walked⟩ := induction taken
        exact ⟨chosen, sublist.cons box, walked⟩

/-- A box the loop passes over leaves the target value reached. -/
theorem reached_of_not_takesBox {taken : List ErgoBox} {box : ErgoBox}
    (passed : takesBox targetBalance targetTokens taken box = false) :
    targetBalance.raw ≤ boxValue taken := by
  simp only [takesBox, Bool.or_eq_false_iff, decide_eq_false_iff_not] at passed
  exact Nat.not_lt.mp passed.1.1.1

/-- A box the loop passes over holds no target token still lacking. -/
theorem covered_of_not_takesBox {taken : List ErgoBox} {box : ErgoBox}
    (passed : takesBox targetBalance targetTokens taken box = false) {token : Token}
    (member : token ∈ box.tokens) :
    tokenAmountOf token.tokenId targetTokens ≤ tokenAmountOf token.tokenId (boxTokens taken) := by
  simp only [takesBox, Bool.or_eq_false_iff, List.any_eq_false, decide_eq_true_eq] at passed
  exact Nat.not_lt.mp (passed.1.2 token member)

/-- The loop reaches the target value when the boxes taken and the rest hold it. -/
theorem walk_value (taken rest : List ErgoBox) :
    min targetBalance.raw (boxValue taken + boxValue rest) ≤
      boxValue (walk targetBalance targetTokens taken rest) := by
  induction rest generalizing taken with
  | nil => simp [walk_nil]
  | cons box rest induction =>
      rw [walk_cons]
      split
      · have later := induction (taken ++ [box])
        simp only [boxValue_append, boxValue_cons, boxValue_nil] at later ⊢
        omega
      · next passed =>
          have reached := reached_of_not_takesBox (Bool.of_not_eq_true passed)
          have later := induction taken
          omega

/-- Per token id, the loop reaches the target units when the boxes taken and the rest hold
them: it takes every box holding a target token still lacking. -/
theorem walk_tokenAmount (id : TokenId) (taken rest : List ErgoBox) :
    min (tokenAmountOf id targetTokens)
        (tokenAmountOf id (boxTokens taken) + tokenAmountOf id (boxTokens rest)) ≤
      tokenAmountOf id (boxTokens (walk targetBalance targetTokens taken rest)) := by
  induction rest generalizing taken with
  | nil => simp [walk_nil]
  | cons box rest induction =>
      rw [walk_cons]
      split
      · have later := induction (taken ++ [box])
        simp only [boxTokens_append, boxTokens_cons, boxTokens_nil, tokenAmountOf_append,
          List.append_nil] at later ⊢
        omega
      · next passed =>
          have later := induction taken
          obtain ⟨chosen, -, walked⟩ :=
            @walk_eq_append targetBalance targetTokens taken rest
          have kept : tokenAmountOf id (boxTokens taken) ≤
              tokenAmountOf id (boxTokens (walk targetBalance targetTokens taken rest)) := by
            rw [walked, boxTokens_append, tokenAmountOf_append]
            exact Nat.le_add_right _ _
          simp only [boxTokens_cons, tokenAmountOf_append]
          by_cases held : id ∈ box.tokens.map Token.tokenId
          · obtain ⟨token, member, rfl⟩ := List.mem_map.mp held
            have covered := covered_of_not_takesBox (Bool.of_not_eq_true passed) member
            omega
          · rw [tokenAmountOf_eq_zero held]
            omega

end Walk

theorem sortInputs_perm (targetTokens : List Token) (inputs : List ErgoBox) :
    (sortInputs targetTokens inputs).Perm inputs :=
  (List.reverse_perm _).trans (List.perm_insertionSort _ _)

/-- With no target tokens every box has the same key, so the sort keeps the inputs in order and
the selector looks at them last first. -/
theorem sortInputs_nil (inputs : List ErgoBox) : sortInputs [] inputs = inputs.reverse := by
  unfold sortInputs
  rw [List.Sorted.insertionSort_eq]
  exact List.pairwise_of_forall fun _ _ => by simp [targetTokensCount]

section Select

variable {inputs : List ErgoBox} {targetBalance : BoxValue} {targetTokens : List Token}

/-- What a successful selection is: the loop's boxes, reaching the target value and tokens,
with the change the library computes for them. -/
theorem select_ok_iff {selection : BoxSelection} :
    SimpleBoxSelector.select inputs targetBalance targetTokens = .ok selection ↔
      selection.boxes = walk targetBalance targetTokens [] (sortInputs targetTokens inputs) ∧
        targetBalance.raw ≤ boxValue selection.boxes ∧
        coversTokens targetTokens (boxTokens selection.boxes) = true ∧
        changeBoxes targetBalance targetTokens selection.boxes = .ok selection.changeBoxes := by
  unfold SimpleBoxSelector.select
  rcases selection with ⟨chosen, nonempty, change⟩
  split
  · next walked => simp [walked, nonempty]
  · next first rest walked =>
      rw [walked]
      by_cases short : boxValue (first :: rest) < targetBalance.raw
      · simp only [short, if_true, reduceCtorEq, false_iff]
        rintro ⟨rfl, funded, -⟩
        omega
      · rw [if_neg short]
        by_cases covered : coversTokens targetTokens (boxTokens (first :: rest)) = true
        · rw [if_neg (by rw [covered]; decide)]
          cases changeResult : changeBoxes targetBalance targetTokens (first :: rest) with
          | error reason =>
              simp only [bind, Except.bind, reduceCtorEq, false_iff]
              rintro ⟨rfl, -, -, rejected⟩
              rw [changeResult] at rejected
              cases rejected
          | ok leftover =>
              simp only [bind, Except.bind, pure, Except.pure, Except.ok.injEq,
                BoxSelection.mk.injEq]
              constructor
              · rintro ⟨rfl, rfl⟩; exact ⟨rfl, Nat.not_lt.mp short, covered, changeResult⟩
              · rintro ⟨rfl, -, -, accepted⟩
                rw [changeResult, Except.ok.injEq] at accepted
                exact ⟨rfl, accepted⟩
        · rw [if_pos (by simpa using covered)]
          simp only [reduceCtorEq, false_iff]
          rintro ⟨rfl, -, chosenCovered, -⟩
          exact covered chosenCovered

theorem select_funded {selection : BoxSelection}
    (selected : SimpleBoxSelector.select inputs targetBalance targetTokens = .ok selection) :
    targetBalance.raw ≤ boxValue selection.boxes :=
  (select_ok_iff.mp selected).2.1

/-- The selector spends some of the boxes it is given, each at most as often as given. -/
theorem select_boxes_subperm {selection : BoxSelection}
    (selected : SimpleBoxSelector.select inputs targetBalance targetTokens = .ok selection) :
    selection.boxes.Subperm inputs := by
  obtain ⟨chosen, sublist, walked⟩ := @walk_eq_append targetBalance
    targetTokens [] (sortInputs targetTokens inputs)
  rw [(select_ok_iff.mp selected).1, walked, List.nil_append]
  exact sublist.subperm.trans (sortInputs_perm targetTokens inputs).subperm

theorem changeBoxes_error {boxes : List ErgoBox} {reason : BoxSelectorError}
    (failed : changeBoxes targetBalance targetTokens boxes = .error reason) :
    (∃ error, reason = .changeValue error) ∨ (∃ error, reason = .changeTokenAmount error) := by
  unfold changeBoxes at failed
  split at failed
  · cases value : BoxValue.new (boxValue boxes - targetBalance.raw) with
    | error error =>
        simp [value, Except.mapError, bind, Except.bind] at failed
        exact .inl ⟨error, failed.symm⟩
    | ok value' =>
        cases tokens : changeTokens (boxTokens boxes) targetTokens with
        | error error =>
            simp [value, tokens, Except.mapError, bind, Except.bind] at failed
            exact .inr ⟨error, failed.symm⟩
        | ok tokens' =>
            simp [value, tokens, Except.mapError, bind, Except.bind, pure, Except.pure] at failed
  · cases failed

/-- A selection among inputs that hold the target value and tokens never fails for lack of
coins or of a token; it can still fail to make its change box. -/
theorem select_not_short (funded : targetBalance.raw ≤ boxValue inputs)
    (covered : coversTokens targetTokens (boxTokens inputs) = true) {reason : BoxSelectorError}
    (failed : SimpleBoxSelector.select inputs targetBalance targetTokens = .error reason) :
    (∀ missing, reason ≠ .notEnoughCoins missing) ∧ reason ≠ .notEnoughTokens := by
  have positive := targetBalance.raw_pos
  have sorted := sortInputs_perm targetTokens inputs
  have reached := @walk_value targetBalance targetTokens []
    (sortInputs targetTokens inputs)
  rw [boxValue_perm sorted, boxValue_nil, Nat.zero_add, Nat.min_eq_left funded] at reached
  unfold SimpleBoxSelector.select at failed
  split at failed
  · next walked => rw [walked, boxValue_nil] at reached; omega
  · next first rest walked =>
      rw [walked] at reached
      have coveredAll : coversTokens targetTokens (boxTokens (first :: rest)) = true := by
        refine coversTokens_of_le fun id => ?_
        have least := @walk_tokenAmount targetBalance targetTokens id []
          (sortInputs targetTokens inputs)
        rw [walked, boxTokens_nil, tokenAmountOf_nil, Nat.zero_add,
          tokenAmountOf_boxTokens_perm id sorted,
          Nat.min_eq_left (coversTokens_le covered id)] at least
        exact least
      rw [if_neg (Nat.not_lt.mpr reached), if_neg (by rw [coveredAll]; decide)] at failed
      cases changeResult : changeBoxes targetBalance targetTokens (first :: rest) with
      | error error =>
          simp only [changeResult, bind, Except.bind, Except.error.injEq] at failed
          subst failed
          rcases changeBoxes_error changeResult with ⟨_, rfl⟩ | ⟨_, rfl⟩ <;>
            exact ⟨fun _ => by simp, by simp⟩
      | ok leftover => simp [changeResult, bind, Except.bind, pure, Except.pure] at failed

end Select

section NoTargetTokens

/-! With no target tokens the loop looks at the inputs last first and takes a box only for the
value: while the value taken falls short, or leaves a change below `SAFE_USER_MIN`. -/

variable {targetBalance : BoxValue}

theorem takesBox_of_value {targetTokens : List Token} {taken : List ErgoBox} (box : ErgoBox)
    (needed : boxValue taken < targetBalance.raw ∨ (targetBalance.raw < boxValue taken ∧
      boxValue taken - targetBalance.raw < BoxValue.SAFE_USER_MIN.raw)) :
    takesBox targetBalance targetTokens taken box = true := by
  unfold takesBox
  rcases needed with short | ⟨over, small⟩
  · simp [short]
  · simp [over, small]

/-- When the last input is worth less than `SAFE_USER_MIN` and other than the target, and the
one before it exactly the target, the selector takes the last three inputs: after each box it
takes, the value falls short or leaves a change below `SAFE_USER_MIN`. -/
theorem select_small_change {first middle last : ErgoBox} {selection : BoxSelection}
    (selected : SimpleBoxSelector.select [first, middle, last] targetBalance [] = .ok selection)
    (exact : middle.value.raw = targetBalance.raw)
    (small : last.value.raw < BoxValue.SAFE_USER_MIN.raw)
    (other : last.value.raw ≠ targetBalance.raw) :
    selection.boxes = [last, middle, first] := by
  have positive := targetBalance.raw_pos
  have lastPositive := last.value.raw_pos
  have takesLast : takesBox targetBalance [] [] last = true :=
    takesBox_of_value last (.inl (by simpa using positive))
  have takesMiddle : takesBox targetBalance [] [last] middle = true :=
    takesBox_of_value middle (by simp only [boxValue_cons, boxValue_nil]; omega)
  have takesFirst : takesBox targetBalance [] [last, middle] first = true :=
    takesBox_of_value first (by simp only [boxValue_cons, boxValue_nil]; omega)
  rw [(select_ok_iff.mp selected).1, sortInputs_nil]
  simp only [List.reverse_cons, List.reverse_nil, List.nil_append, List.cons_append,
    List.singleton_append, walk_cons, takesLast, takesMiddle, takesFirst, if_true, walk_nil]

end NoTargetTokens

section ChangeTokens

/-- Units of one token id in a list of (id, amount) entries. -/
def entriesAmount (id : TokenId) (entries : List (TokenId × Nat)) : Nat :=
  (entries.map fun entry => if entry.1 = id then entry.2 else 0).sum

@[simp] theorem entriesAmount_nil (id : TokenId) : entriesAmount id [] = 0 := rfl

@[simp] theorem entriesAmount_cons (id : TokenId) (entry : TokenId × Nat)
    (entries : List (TokenId × Nat)) :
    entriesAmount id (entry :: entries) =
      (if entry.1 = id then entry.2 else 0) + entriesAmount id entries := by
  simp [entriesAmount]

theorem entriesAmount_filter (id : TokenId) (entries : List (TokenId × Nat)) :
    entriesAmount id (entries.filter fun entry => entry.2 ≠ 0) = entriesAmount id entries := by
  induction entries with
  | nil => rfl
  | cons entry entries induction =>
      by_cases zero : entry.2 = 0
      · rw [List.filter_cons_of_neg (by simpa using zero), induction]
        simp [zero]
      · rw [List.filter_cons_of_pos (by simpa using zero)]
        simp only [entriesAmount_cons, induction]

theorem entriesAmount_map_of_nodup (id : TokenId) (surplus : TokenId → Nat) {ids : List TokenId}
    (distinct : ids.Nodup) :
    entriesAmount id (ids.map fun other => (other, surplus other)) =
      if id ∈ ids then surplus id else 0 := by
  induction ids with
  | nil => simp
  | cons other ids induction =>
      obtain ⟨notLater, restDistinct⟩ := List.nodup_cons.mp distinct
      rw [List.map_cons, entriesAmount_cons, induction restDistinct]
      by_cases same : other = id
      · subst same
        simp [notLater]
      · simp [same, Ne.symm same]

/-- Per token id, the surplus entries hold exactly the selected units beyond the targets. -/
theorem entriesAmount_tokenSurplus (id : TokenId) (selected targets : List Token) :
    entriesAmount id (tokenSurplus selected targets) =
      tokenAmountOf id selected - tokenAmountOf id targets := by
  unfold tokenSurplus
  rw [entriesAmount_filter, entriesAmount_map_of_nodup _ _ (List.nodup_dedup _)]
  split
  · rfl
  · next absent =>
      rw [tokenAmountOf_eq_zero (fun member => absent (List.mem_dedup.mpr member))]
      simp

theorem changeTokens_amount {selected targets tokens : List Token} (id : TokenId)
    (made : changeTokens selected targets = .ok tokens) :
    tokenAmountOf id tokens = tokenAmountOf id selected - tokenAmountOf id targets := by
  rw [← entriesAmount_tokenSurplus]
  unfold changeTokens at made
  generalize tokenSurplus selected targets = entries at made
  induction entries generalizing tokens with
  | nil =>
      cases made
      rfl
  | cons entry entries induction =>
      simp only [List.mapM_cons, bind_eq_ok, pure, Except.pure, Except.ok.injEq] at made
      obtain ⟨token, converted, rest, restMade, rfl⟩ := made
      cases amount : TokenAmount.new entry.2 with
      | error reason => simp [amount, Except.map] at converted
      | ok amount' =>
          simp only [amount, Except.map, Except.ok.injEq] at converted
          subst converted
          simp [induction restMade, TokenAmount.new_raw amount]

theorem boxesTokenAmount_map_toErgoBoxCandidate (id : TokenId) (boxes : List ErgoBox) :
    boxesTokenAmount id (boxes.map ErgoBox.toErgoBoxCandidate) = tokenAmountOf id (boxTokens boxes) := by
  induction boxes with
  | nil => rfl
  | cons box boxes induction => simp [induction]

/-- The change of a selection holds, per token id, the selected units beyond the targets. -/
theorem changeBoxes_tokenAmount {targetBalance : BoxValue} {targetTokens : List Token}
    {boxes : List ErgoBox} {change : List ErgoBoxAssetsData} (id : TokenId)
    (made : changeBoxes targetBalance targetTokens boxes = .ok change) :
    (change.map fun assets => tokenAmountOf id assets.tokens).sum =
      tokenAmountOf id (boxTokens boxes) - tokenAmountOf id targetTokens := by
  unfold changeBoxes at made
  split at made
  · obtain ⟨value, -, made⟩ := bind_eq_ok.mp made
    obtain ⟨tokens, converted, made⟩ := bind_eq_ok.mp made
    cases made
    cases tokensMade : changeTokens (boxTokens boxes) targetTokens with
    | error reason => simp [tokensMade, Except.mapError] at converted
    | ok tokens' =>
        simp only [tokensMade, Except.mapError, Except.ok.injEq] at converted
        subst converted
        simp [changeTokens_amount id tokensMade]
  · next unchanged =>
      cases made
      have noSurplus : tokenSurplus (boxTokens boxes) targetTokens = [] :=
        (by simpa [changeNeeded] using unchanged : _ ∧ _).2
      have := entriesAmount_tokenSurplus id (boxTokens boxes) targetTokens
      rw [noSurplus, entriesAmount_nil] at this
      simp [← this]

end ChangeTokens

section Accounting

variable {inputs : List ErgoBox} {targetBalance : BoxValue} {targetTokens : List Token}
  {selection : BoxSelection}

/-- A selection worth more than its target leaves one change box. -/
theorem select_change_of_over
    (selected : SimpleBoxSelector.select inputs targetBalance targetTokens = .ok selection)
    (over : targetBalance.raw < boxValue selection.boxes) :
    ∃ change, selection.changeBoxes = [change] := by
  have change := (select_ok_iff.mp selected).2.2.2
  rw [changeBoxes, if_pos (by simp [changeNeeded, over])] at change
  obtain ⟨value, -, change⟩ := bind_eq_ok.mp change
  obtain ⟨tokens, -, change⟩ := bind_eq_ok.mp change
  exact ⟨⟨value, tokens⟩, (Except.ok.inj change).symm⟩

/-- The selected boxes hold exactly the target value and the value of the change. -/
theorem select_value
    (selected : SimpleBoxSelector.select inputs targetBalance targetTokens = .ok selection) :
    boxValue selection.boxes =
      targetBalance.raw + (selection.changeBoxes.map fun assets => assets.value.raw).sum := by
  obtain ⟨-, funded, -, change⟩ := select_ok_iff.mp selected
  unfold changeBoxes at change
  split at change
  · obtain ⟨value, made, change⟩ := bind_eq_ok.mp change
    obtain ⟨tokens, -, change⟩ := bind_eq_ok.mp change
    cases valueMade : BoxValue.new (boxValue selection.boxes - targetBalance.raw) with
    | error reason => simp [valueMade, Except.mapError] at made
    | ok value' =>
        simp only [valueMade, Except.mapError, Except.ok.injEq] at made
        subst made
        have raw := (BoxValue.new_eq_ok.mp valueMade).2.2
        simp only [pure, Except.pure, Except.ok.injEq] at change
        rw [← change]
        simp only [List.map_cons, List.map_nil, List.sum_cons, List.sum_nil]
        omega
  · next unchanged =>
      simp only [pure, Except.pure, Except.ok.injEq] at change
      rw [← change]
      simp only [changeNeeded, Bool.or_eq_true, decide_eq_true_eq, not_or] at unchanged
      simp only [List.map_nil, List.sum_nil]
      omega

/-- Per token id, the selected boxes hold the target units and the units of the change. -/
theorem select_tokenAmount
    (selected : SimpleBoxSelector.select inputs targetBalance targetTokens = .ok selection)
    (id : TokenId) :
    tokenAmountOf id (boxTokens selection.boxes) = tokenAmountOf id targetTokens +
      (selection.changeBoxes.map fun assets => tokenAmountOf id assets.tokens).sum := by
  obtain ⟨-, -, covered, change⟩ := select_ok_iff.mp selected
  have least := coversTokens_le covered id
  rw [changeBoxes_tokenAmount id change]
  omega

end Accounting

end OracleCore
