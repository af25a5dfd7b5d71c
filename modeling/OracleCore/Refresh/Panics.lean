import OracleCore.Refresh.Action

/-!
# Panics of the refresh action

`build_refresh_action` returns the stages', the wallet's, the box selector's and
the transaction builder's failures as errors.  It panics in six places only:
`deviation_check` indexes the empty list when no datapoint box is visible, and
multiplies the smallest rate by `max_deviation_percent` in `u64`; the rate
function panics, as the source's `calc_pool_rate`, a `todo!()`, does on every
call; `len() as u32 * 2` overflows from `2^31` survivors;
`build_out_oracle_boxes` unwraps the reward amount plus one; and
`try_into().unwrap()` refuses more than `u16::MAX` inputs.
-/

namespace OracleCore

theorem lift_ne_panic {convert : ε → ε'} {call : Except ε α} {site : Panic} :
    (lift convert call : Except (Fault ε') α) ≠ .error (.panic site) := by
  cases call <;> simp [lift, Except.mapError]

theorem mapM_error {step : α → Except ε β} {items : List α} {e : ε}
    (failed : items.mapM step = .error e) : ∃ item ∈ items, step item = .error e := by
  induction items with
  | nil => cases failed
  | cons item items induction =>
      rw [List.mapM_cons] at failed
      rcases bind_eq_error.mp failed with stepped | ⟨_, -, failed⟩
      · exact ⟨item, List.mem_cons_self _ _, stepped⟩
      · rcases bind_eq_error.mp failed with restFailed | ⟨_, -, failed⟩
        · obtain ⟨other, member, stepped⟩ := induction restFailed
          exact ⟨other, List.mem_cons_of_mem _ member, stepped⟩
        · cases failed

section OutBoxes

variable {height : Nat} {site : Panic}

theorem buildOutPoolBox_ne_panic (inPoolBox : ErgoBox) (rate : Nat) :
    buildOutPoolBox inPoolBox height rate ≠ .error (.panic site) := by
  unfold buildOutPoolBox
  split <;> simp

theorem buildOutRefreshBox_ne_panic (inRefreshBox : ErgoBox) (rewardDecrement : Nat) :
    buildOutRefreshBox inRefreshBox height rewardDecrement ≠ .error (.panic site) := by
  unfold buildOutRefreshBox
  split
  · split <;> simp
  · simp

/-- Re-emitting a box panics only when its reward amount is at the maximum. -/
theorem buildOutOracleBox_panic {inOb : OracleBox}
    (panicked : buildOutOracleBox height inOb = .error (.panic site)) :
    inOb.rewardToken.amount.raw = TokenAmount.MAX_RAW ∧ site = .unwrapFailed := by
  obtain added | ⟨_, -, made⟩ := bind_eq_error.mp panicked
  · have := inOb.rewardToken.amount.le_max
    cases sum : inOb.rewardToken.amount.checkedAdd TokenAmount.one with
    | error e =>
        simp only [unwrap, sum, Except.mapError, Except.error.injEq, Fault.panic.injEq] at added
        unfold TokenAmount.checkedAdd TokenAmount.new at sum
        split at sum
        · cases sum
        · next outside => exact ⟨by simp only [TokenAmount.one] at outside; omega, added.symm⟩
    | ok amount => simp [unwrap, sum, Except.mapError] at added
  · cases made

end OutBoxes

section Refresh

variable {refreshContract : RefreshContract} {poolRate : List OracleBox → Refresh Nat}
  {sources : RefreshSources} {height : Nat} {changeAddress : Address} {site : Panic}

/-- Where assembling the refresh transaction can panic: the rate function, doubling the
survivor count in `u32`, re-emitting a survivor whose reward amount is at the maximum, or more
than `u16::MAX` inputs. -/
theorem buildRefreshTransaction_panic {inPoolBox inRefreshBox : ErgoBox}
    {survivors : List OracleBox}
    (panicked : buildRefreshTransaction poolRate sources inPoolBox inRefreshBox survivors
      height changeAddress = .error (.panic site)) :
    poolRate survivors = .error (.panic site) ∨
      2 ^ 31 ≤ survivors.length % 2 ^ 32 ∧ site = .arithmeticOverflow ∨
      (∃ inBox ∈ survivors, inBox.rewardToken.amount.raw = TokenAmount.MAX_RAW) ∧
        site = .unwrapFailed ∨
      (∃ unspentBoxes selection, sources.unspentWalletBoxes = .ok unspentBoxes ∧
        SimpleBoxSelector.select unspentBoxes BoxValue.SAFE_USER_MIN [] = .ok selection ∧
        65535 < 2 + survivors.length + selection.boxes.length) ∧ site = .unwrapFailed := by
  unfold buildRefreshTransaction at panicked
  rcases bind_eq_error.mp panicked with rated | ⟨_, -, panicked⟩
  · exact .inl rated
  rcases bind_eq_error.mp panicked with doubled | ⟨_, -, panicked⟩
  · unfold checkedMulU32 at doubled
    split at doubled
    · cases doubled
    · cases doubled
      exact .inr (.inl ⟨by omega, rfl⟩)
  rcases bind_eq_error.mp panicked with pool | ⟨_, -, panicked⟩
  · exact absurd pool (buildOutPoolBox_ne_panic _ _)
  rcases bind_eq_error.mp panicked with refresh | ⟨_, -, panicked⟩
  · exact absurd refresh (buildOutRefreshBox_ne_panic _ _)
  rcases bind_eq_error.mp panicked with oracles | ⟨_, -, panicked⟩
  · obtain ⟨inBox, member, reEmitted⟩ := mapM_error oracles
    obtain ⟨atMax, rfl⟩ := buildOutOracleBox_panic reEmitted
    exact .inr (.inr (.inl ⟨⟨inBox, member, atMax⟩, rfl⟩))
  rcases bind_eq_error.mp panicked with unspent | ⟨unspentBoxes, unspent, panicked⟩
  · exact absurd unspent lift_ne_panic
  rcases bind_eq_error.mp panicked with selected | ⟨selection, selected, panicked⟩
  · exact absurd selected lift_ne_panic
  rcases bind_eq_error.mp panicked with converted | ⟨_, -, panicked⟩
  · unfold txIoVec at converted
    split at converted
    · cases converted
    · next large =>
        cases converted
        refine .inr (.inr (.inr ⟨⟨unspentBoxes, selection, lift_eq_ok.mp unspent,
          lift_eq_ok.mp selected, ?_⟩, rfl⟩))
        simp only [List.length_append, List.length_cons, List.length_nil, List.length_map] at large
        omega
  rcases bind_eq_error.mp panicked with built | ⟨_, -, made⟩
  · exact absurd built lift_ne_panic
  · cases made

/-- The smallest rate of a list is that of the first box of its sorted order. -/
theorem sortByRate_head_le {visible : List OracleBox} {first : OracleBox} {rest : List OracleBox}
    (sorted : sortByRate visible = first :: rest) :
    first ∈ visible ∧ ∀ other ∈ visible, first.rate ≤ other.rate := by
  have perm := sortByRate_perm visible
  have ordered := rates_sortByRate_sorted visible
  rw [sorted] at perm ordered
  refine ⟨perm.subset (List.mem_cons_self _ _), fun other member => ?_⟩
  rcases List.mem_cons.mp (perm.symm.subset member) with rfl | later
  · exact le_refl _
  · exact List.rel_of_sorted_cons ordered _ (List.mem_map_of_mem _ later)

/-- Why `build_refresh_action` panicked on the visible datapoint boxes, with the panic each
cause raises. -/
inductive RefreshPanicCause (refreshContract : RefreshContract)
    (poolRate : List OracleBox → Refresh Nat) (sources : RefreshSources)
    (visible : List OracleBox) : Panic → Prop
  | noDatapoints : visible = [] →
      RefreshPanicCause refreshContract poolRate sources visible .indexOutOfBounds
  | deviationOverflow (first : OracleBox) : first ∈ visible →
      (∀ other ∈ visible, first.rate ≤ other.rate) →
      2 ^ 64 ≤ first.rate * refreshContract.maxDeviationPercent →
      RefreshPanicCause refreshContract poolRate sources visible .arithmeticOverflow
  | ratePanics (site : Panic) : poolRate (sortByRate visible) = .error (.panic site) →
      RefreshPanicCause refreshContract poolRate sources visible site
  | decrementOverflow : 2 ^ 31 ≤ visible.length % 2 ^ 32 →
      RefreshPanicCause refreshContract poolRate sources visible .arithmeticOverflow
  | rewardAtMax (inBox : OracleBox) : inBox ∈ visible →
      inBox.rewardToken.amount.raw = TokenAmount.MAX_RAW →
      RefreshPanicCause refreshContract poolRate sources visible .unwrapFailed
  | tooManyInputs (unspentBoxes : List ErgoBox) (selection : BoxSelection) :
      sources.unspentWalletBoxes = .ok unspentBoxes →
      SimpleBoxSelector.select unspentBoxes BoxValue.SAFE_USER_MIN [] = .ok selection →
      65535 < 2 + visible.length + selection.boxes.length →
      RefreshPanicCause refreshContract poolRate sources visible .unwrapFailed

/-- With a deviation range of at most 100 percent, `build_refresh_action` panics only for one
of the causes of `RefreshPanicCause`, and with that cause's panic. -/
theorem buildRefreshAction_panics (bounded : refreshContract.maxDeviationPercent ≤ 100)
    (panicked : buildRefreshAction refreshContract poolRate sources height changeAddress =
      .error (.panic site)) :
    ∃ visible, sources.oracleDatapointBoxes = .ok visible ∧
      RefreshPanicCause refreshContract poolRate sources visible site := by
  unfold buildRefreshAction at panicked
  rcases bind_eq_error.mp panicked with pool | ⟨_, -, panicked⟩
  · exact absurd pool lift_ne_panic
  rcases bind_eq_error.mp panicked with refresh | ⟨_, -, panicked⟩
  · exact absurd refresh lift_ne_panic
  rcases bind_eq_error.mp panicked with oracles | ⟨visible, oracles, panicked⟩
  · exact absurd oracles lift_ne_panic
  refine ⟨visible, lift_eq_ok.mp oracles, ?_⟩
  have perm := sortByRate_perm visible
  rcases bind_eq_error.mp panicked with filtered | ⟨survivors, filtered, panicked⟩
  · rw [filteredOracleBoxes_eq bounded] at filtered
    split at filtered
    · next sorted =>
        cases filtered
        exact .noDatapoints (List.Perm.eq_nil (sorted ▸ perm).symm)
    · next first rest sorted =>
        split at filtered
        · cases filtered
        · next large =>
            cases filtered
            exact .deviationOverflow first (sortByRate_head_le sorted).1
              (sortByRate_head_le sorted).2 (by omega)
  obtain rfl := filteredOracleBoxes_ok filtered
  simp only at panicked
  split at panicked
  · cases panicked
  · rcases buildRefreshTransaction_panic panicked with rated | ⟨doubled, rfl⟩ |
      ⟨⟨inBox, member, atMax⟩, rfl⟩ |
      ⟨⟨unspentBoxes, selection, unspent, selected, large⟩, rfl⟩
    · exact .ratePanics site rated
    · exact .decrementOverflow (perm.length_eq ▸ doubled)
    · exact .rewardAtMax inBox (perm.subset member) atMax
    · exact .tooManyInputs unspentBoxes selection unspent selected (perm.length_eq ▸ large)

/-- With the source's `calc_pool_rate`, the refresh of one datapoint box panics in it. -/
theorem buildRefreshAction_panics_calcPoolRate :
    RefreshContract.default.maxDeviationPercent ≤ 100 ∧
      buildRefreshAction RefreshContract.default calcPoolRate (oneOracleSources 0) 100
          walletAddress = .error (.panic .todo) ∧
      ∃ visible, (oneOracleSources 0).oracleDatapointBoxes = .ok visible ∧
        RefreshPanicCause RefreshContract.default calcPoolRate (oneOracleSources 0) visible
          .todo :=
  have panicked : buildRefreshAction RefreshContract.default calcPoolRate (oneOracleSources 0)
      100 walletAddress = .error (.panic .todo) := by
    simp only [buildRefreshAction, @filteredOracleBoxes_eq RefreshContract.default (by decide)]
    rfl
  ⟨by decide, panicked, buildRefreshAction_panics (by decide) panicked⟩

end Refresh

end OracleCore
