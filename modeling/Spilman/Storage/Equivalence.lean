/-
# The stores are interchangeable

Both stores implement the abstract store, so they have the same channels on record as long
as the same operations are accepted; and they count the same usage as long as no counter
leaves the range of its column. The exception is a close that is marked for a channel which
is not known: the store in memory takes it, and the store over SQLite does not.
-/

import Spilman.Storage.Conformance

namespace Spilman

open Lib

variable {T : Carriers} {L : Cashu T}

/-! ## Comparing stores -/

/-- Two stores give the same answers. Usage is compared as a map. -/
structure SameAnswers {σ τ : Type} (S : SpilmanStorage T σ) (S' : SpilmanStorage T τ) (store : σ)
    (store' : τ) : Prop where
  record : S.record store = S'.record store'
  usage : ∀ channelId, (S.getUsage store channelId).map (fun usage var => usage.lookup var) =
    (S'.getUsage store' channelId).map fun usage var => usage.lookup var

/-- Amounts, balances and usage totals are small, payments are signed, and closes are marked
for channels that are known. -/
def StorageOperation.Comparable (operation : StorageOperation T) (store : MemoryStorage T) :
    Prop :=
  match operation with
  | .updateBalance _ payment => payment.balance < 2 ^ 63 ∧ payment.signature ≠ ""
  | .comparePayment _ expected payment => payment.balance < 2 ^ 63 ∧
      expected.signature ≠ "" ∧ payment.signature ≠ ""
  | .freezeClose _ expected _ _ => expected.signature ≠ ""
  | .incrementUsage channelId increments => ∀ var,
      (((store.getUsage channelId).bind fun usage => usage.lookup var).getD 0) +
        (increments.lookup var).getD 0 < 2 ^ 63
  | .markClosing channelId _ | .markClosed channelId _ => store.getState channelId ≠ .ok none
  | .reopen => False
  | .getFunding _ | .saveFunding _ _ | .advanceClose _ _ _ _ | .setKeyset _ _ _ => True

/-- How the stores are related: the same channels are on record, and every counter in memory
is a row over SQLite. -/
structure Related (L : Cashu T) (store : MemoryStorage T) (store' : SqliteStorage T) : Prop where
  orderly : ∀ channelId, Orderly ((memoryStorage T).record store channelId)
  record : (memoryStorage T).record store = (sqliteStorage L).record store'
  formed : store'.WellFormed
  consistent : store'.Consistent
  counting : store'.Counting
  usage : ∀ channelId var, ((store.usage.lookup channelId).getD ∅).lookup var =
    (store'.usage.lookup (channelId, var)).bind SqlNumber.read

variable {store : MemoryStorage T} {store' : SqliteStorage T} {operation : StorageOperation T}

theorem related_new (L : Cashu T) : Related L MemoryStorage.new SqliteStorage.new where
  orderly := fun _ => .unknown
  record := rfl
  formed := SqliteStorage.wellFormed_new
  consistent := SqliteStorage.consistent_new
  counting := SqliteStorage.counting_new
  usage := fun _ _ => rfl

/-! ## Usage -/

/-- The answer to a question for usage, given a table: an empty one is not shown. -/
theorem map_lookup_congr {table table' : UsageMap}
    (same : ∀ var, table.lookup var = table'.lookup var) :
    (if table.entries.isEmpty then none else some table).map (fun usage var => usage.lookup var) =
      (if table'.entries.isEmpty then none else some table').map
        fun usage var => usage.lookup var := by
  have empty : table.entries.isEmpty ↔ table'.entries.isEmpty := by
    rw [Table.isEmpty_entries_iff, Table.isEmpty_entries_iff]
    simp only [same]
  by_cases isEmpty : table.entries.isEmpty = true
  · rw [if_pos isEmpty, if_pos (empty.mp isEmpty)]
  · rw [if_neg isEmpty, if_neg fun isEmpty' => isEmpty (empty.mpr isEmpty')]
    simp only [Option.map_some, same]

theorem MemoryStorage.getUsage_eq (store : MemoryStorage T) (channelId : String) :
    store.getUsage channelId =
      if ((store.usage.lookup channelId).getD ∅).entries.isEmpty then none
      else some ((store.usage.lookup channelId).getD ∅) := by
  unfold getUsage
  cases store.usage.lookup channelId with
  | none => rfl
  | some usage =>
      by_cases isEmpty : usage.entries.isEmpty = true
      · simp only [Option.filter, Option.getD_some, isEmpty, if_true, Bool.not_true,
          Bool.false_eq_true, if_false]
      · simp only [Option.filter, Option.getD_some, isEmpty, if_false, Bool.not_false, if_true,
          Bool.false_eq_true]

theorem Related.sameAnswers (related : Related L store store') :
    SameAnswers (memoryStorage T) (sqliteStorage L) store store' := by
  refine ⟨related.record, fun channelId => ?_⟩
  show Option.map _ (store.getUsage channelId) = Option.map _ (store'.getUsage channelId)
  rw [MemoryStorage.getUsage_eq]
  apply map_lookup_congr
  intro var
  rw [related.usage, Table.lookup_slice]

/-- The counter of a variable, in either store. -/
theorem Related.count (related : Related L store store') (channelId var : String) :
    ((store.getUsage channelId).bind fun usage => usage.lookup var).getD 0 =
      ((store'.usage.lookup (channelId, var)).bind SqlNumber.read).getD 0 := by
  rw [MemoryStorage.count_getUsage, related.usage]

/-- Counters that stay in range go up by the same amount. -/
theorem Related.incrementUsage (related : Related L store store') {channelId : String}
    {increments : UsageMap}
    (small : ∀ var, (((store.getUsage channelId).bind fun usage => usage.lookup var).getD 0) +
      (increments.lookup var).getD 0 < 2 ^ 63) (other var : String) :
    (((store.incrementUsage channelId increments).2.usage.lookup other).getD ∅).lookup var =
      ((store'.incrementUsage channelId increments).2.usage.lookup (other, var)).bind
        SqlNumber.read := by
  by_cases same : other = channelId
  · subst same
    have bound := small var
    rw [related.count] at bound
    have merged := Table.lookup_merge (fun count delta => (count.getD 0 + delta) % 2 ^ 64)
      Function.injective_id increments ((store.usage.lookup other).getD ∅) var
    simp only [MemoryStorage.incrementUsage, AList.lookup_insert, Option.getD_some]
    refine Eq.trans merged ?_
    cases counted : increments.lookup var with
    | none =>
        rw [SqliteStorage.lookup_usage_incrementUsage, counted]
        exact related.usage other var
    | some delta =>
        rw [SqliteStorage.counter_incrementUsage related.counting bound counted]
        rw [counted, Option.getD_some] at bound
        show some (((((store.usage.lookup other).getD ∅).lookup var).getD 0 + delta) % 2 ^ 64) =
          some (SqlNumber.toU64 _)
        rw [related.usage, SqlNumber.toU64_natCast (by omega), Nat.mod_eq_of_lt (by omega)]
  · rw [SqliteStorage.lookup_usage_incrementUsage_of_ne store' increments var same]
    simp only [MemoryStorage.incrementUsage, AList.lookup_insert_ne same]
    exact related.usage other var

/-! ## Steps -/

/-- Nothing else counts usage. -/
theorem MemoryStorage.usage_of_uncounted (uncounted : ∀ channelId increments,
    operation ≠ .incrementUsage channelId increments) :
    (machine T operation store).2.usage = store.usage := by
  cases operation with
  | incrementUsage channelId increments => exact absurd rfl (uncounted channelId increments)
  | getFunding channelId => rfl
  | setKeyset mint id entry => rfl
  | reopen => rfl
  | saveFunding channelId funding =>
      show (store.saveFunding channelId funding).2.usage = store.usage
      unfold saveFunding
      split_ifs <;> rfl
  | updateBalance channelId payment =>
      show (store.updateBalance channelId payment).2.usage = store.usage
      unfold updateBalance
      dsimp only
      split_ifs <;> rfl
  | comparePayment channelId expected payment =>
      show (store.comparePayment channelId expected payment).2.usage = store.usage
      unfold comparePayment
      split_ifs
      · rfl
      · cases store.balance.lookup channelId with
        | none => rfl
        | some current =>
            dsimp only
            split_ifs <;> rfl
  | markClosing channelId data =>
      show (store.markClosing channelId data).2.usage = store.usage
      unfold markClosing
      split_ifs <;> rfl
  | markClosed channelId data =>
      show (store.markClosed channelId data).2.usage = store.usage
      unfold markClosed
      split_ifs <;> rfl
  | freezeClose channelId expected closing journal =>
      show (store.freezeClose channelId expected closing journal).2.usage = store.usage
      unfold freezeClose
      split_ifs
      · rfl
      · cases store.getBalance channelId with
        | none => rfl
        | some payment =>
            dsimp only
            split_ifs <;> rfl
  | advanceClose channelId expected journal completed =>
      show (store.advanceClose channelId expected journal completed).2.usage = store.usage
      unfold advanceClose
      split_ifs
      · rfl
      · cases completed with
        | none => rfl
        | some data => rfl

theorem SqliteStorage.WellFormed.afterGetFunding (formed : store'.WellFormed)
    (channelId : String) : (store'.afterGetFunding channelId).WellFormed := by
  unfold SqliteStorage.afterGetFunding
  cases store'.fundingCache.lookup channelId with
  | some held => exact formed
  | none =>
      cases store'.channels.lookup channelId with
      | none => exact formed
      | some row =>
          refine ⟨fun found => ?_, formed.balances⟩
          exact AList.mem_insert _ |>.mpr (.inr (formed.cached found))

theorem SqliteStorage.usage_afterGetFunding (store' : SqliteStorage T) (channelId : String) :
    (store'.afterGetFunding channelId).usage = store'.usage := by
  unfold afterGetFunding
  cases store'.fundingCache.lookup channelId with
  | some held => rfl
  | none =>
      cases store'.channels.lookup channelId with
      | none => rfl
      | some row => rfl

theorem SqliteStorage.usage_of_uncounted (L : Cashu T) (formed : store'.WellFormed)
    (stays : operation ≠ .reopen) (uncounted : ∀ channelId increments,
      operation ≠ .incrementUsage channelId increments) :
    (machine L operation store').2.WellFormed ∧
      (machine L operation store').2.usage = store'.usage := by
  have edited : ∀ {after}, store'.Edits after → after.WellFormed ∧ after.usage = store'.usage :=
    fun edits => ⟨formed.of_edits edits, edits.usage⟩
  cases operation with
  | incrementUsage channelId increments => exact absurd rfl (uncounted channelId increments)
  | reopen => exact absurd rfl stays
  | getFunding channelId =>
      exact ⟨formed.afterGetFunding channelId, usage_afterGetFunding store' channelId⟩
  | saveFunding channelId funding => exact ⟨wellFormed_saveFunding formed channelId funding, rfl⟩
  | setKeyset mint id entry => exact ⟨⟨formed.cached, formed.balances⟩, rfl⟩
  | updateBalance channelId payment => exact edited (edits_updateBalance store' channelId payment)
  | comparePayment channelId expected payment =>
      exact edited (edits_comparePayment store' channelId expected payment)
  | markClosing channelId data => exact edited (edits_markClosing store' channelId data)
  | markClosed channelId data => exact edited (edits_markClosed store' channelId data)
  | freezeClose channelId expected closing journal =>
      exact edited (edits_freezeClose store' channelId expected closing journal)
  | advanceClose channelId expected journal completed =>
      exact edited (edits_advanceClose store' channelId expected journal completed)

/-- What the operation is asked for is what the stores need. -/
theorem Related.permits (related : Related L store store') (comparable : operation.Comparable store) :
    MemoryStorage.Permits operation store ∧ SqliteStorage.Permits operation store' ∧
      (operation.Accepted (fun _ => True) ((memoryStorage T).record store) ↔
        operation.Accepted (· < 2 ^ 63) ((sqliteStorage L).record store')) := by
  rw [← related.record]
  cases operation with
  | updateBalance channelId payment =>
      exact ⟨trivial, comparable.2, and_congr_right fun _ => iff_of_true trivial comparable.1⟩
  | comparePayment channelId expected payment =>
      exact ⟨trivial, comparable.2, and_congr_right fun _ => and_congr_right fun _ =>
        and_congr_right fun _ => iff_of_true trivial comparable.1⟩
  | saveFunding channelId funding =>
      refine ⟨trivial, fun uncached row stored => ?_, Iff.rfl⟩
      exact absurd (related.formed.cached stored) uncached
  | freezeClose channelId expected closing journal => exact ⟨trivial, comparable, Iff.rfl⟩
  | markClosing channelId data => exact ⟨comparable, trivial, Iff.rfl⟩
  | markClosed channelId data => exact ⟨comparable, trivial, Iff.rfl⟩
  | getFunding channelId => exact ⟨trivial, trivial, Iff.rfl⟩
  | incrementUsage channelId increments => exact ⟨trivial, trivial, Iff.rfl⟩
  | advanceClose channelId expected journal completed => exact ⟨trivial, trivial, Iff.rfl⟩
  | setKeyset mint id entry => exact ⟨trivial, trivial, Iff.rfl⟩
  | reopen => exact comparable.elim

/-- Counters stay in range and related, also where they are not incremented. -/
theorem Related.counted (related : Related L store store')
    (comparable : operation.Comparable store) :
    (SqliteStorage.machine L operation store').2.WellFormed ∧
      (SqliteStorage.machine L operation store').2.Counting ∧
      ∀ channelId var, (((MemoryStorage.machine T operation store).2.usage.lookup
        channelId).getD ∅).lookup var =
          ((SqliteStorage.machine L operation store').2.usage.lookup (channelId, var)).bind
            SqlNumber.read := by
  by_cases counts : ∃ channelId increments, operation = .incrementUsage channelId increments
  · obtain ⟨channelId, increments, rfl⟩ := counts
    have small : ∀ var, ((sqliteStorage L).view store' channelId).usage var +
        (increments.lookup var).getD 0 < 2 ^ 63 := by
      intro var
      have counter : ((sqliteStorage L).view store' channelId).usage var = _ :=
        SqliteStorage.count_getUsage store' channelId var
      rw [counter, ← related.count]
      exact comparable var
    exact ⟨⟨related.formed.cached, related.formed.balances⟩,
      (SqliteStorage.incrementUsage_changes related.counting channelId increments small).1,
      related.incrementUsage comparable⟩
  · have uncounted : ∀ channelId increments, operation ≠ .incrementUsage channelId increments :=
      fun channelId increments same => counts ⟨channelId, increments, same⟩
    have stays : operation ≠ .reopen := by
      rintro rfl
      exact comparable
    obtain ⟨formed, same⟩ := SqliteStorage.usage_of_uncounted L related.formed stays uncounted
    refine ⟨formed, SqliteStorage.Counting.of_usage_eq related.counting same, ?_⟩
    rw [MemoryStorage.usage_of_uncounted uncounted, same]
    exact related.usage

/-- One operation: it succeeds in both stores or in neither, and they stay related. -/
theorem Related.step (related : Related L store store') (comparable : operation.Comparable store) :
    ((MemoryStorage.machine T operation store).1 = .ok () ↔
      (SqliteStorage.machine L operation store').1 = .ok ()) ∧
    Related L (MemoryStorage.machine T operation store).2
      (SqliteStorage.machine L operation store').2 := by
  obtain ⟨permitted, permitted', accepted⟩ := related.permits comparable
  have orderly' : ∀ channelId, Orderly ((sqliteStorage L).record store' channelId) := by
    intro channelId
    rw [← related.record]
    exact related.orderly channelId
  have does := MemoryStorage.implements.does operation store trivial related.orderly permitted
  have does' := (SqliteStorage.implements L).does operation store' related.consistent orderly'
    permitted'
  have succeeds := does.accepted.trans (accepted.trans does'.accepted.symm)
  have record : (memoryStorage T).record (MemoryStorage.machine T operation store).2 =
      (sqliteStorage L).record (SqliteStorage.machine L operation store').2 := by
    by_cases succeeded : (MemoryStorage.machine T operation store).1 = .ok ()
    · rw [does.applied succeeded, does'.applied (succeeds.mp succeeded), related.record]
    · rw [does.refused succeeded, does'.refused fun ok => succeeded (succeeds.mpr ok),
        related.record]
  have counted : (SqliteStorage.machine L operation store').2.WellFormed ∧
      (SqliteStorage.machine L operation store').2.Counting ∧
      ∀ channelId var, (((MemoryStorage.machine T operation store).2.usage.lookup
        channelId).getD ∅).lookup var =
          ((SqliteStorage.machine L operation store').2.usage.lookup (channelId, var)).bind
            SqlNumber.read :=
    related.counted comparable
  exact ⟨succeeds, fun channelId =>
      (MemoryStorage.implements.advances trivial related.orderly permitted channelId).1,
    record, counted.1,
    (SqliteStorage.implements L).formed operation store' related.consistent orderly' permitted',
    counted.2.1, counted.2.2⟩

/-! ## Runs -/

theorem related_after (L : Cashu T) {operations : List (StorageOperation T)}
    (comparable : (MemoryStorage.machine T).Throughout StorageOperation.Comparable operations
      .new) :
    Related L ((MemoryStorage.machine T).after operations .new)
      ((SqliteStorage.machine L).after operations .new) := by
  refine Machine.simulation_after (Related L) ?_ (related_new L) comparable
  intro operation store store' related comparable
  exact (related.step comparable).2

/-- **The stores are interchangeable.** Every operation succeeds in both stores or fails in
both, and after every operation they give the same answers. -/
theorem stores_interchangeable (L : Cashu T) {operations : List (StorageOperation T)}
    (comparable : (MemoryStorage.machine T).Throughout StorageOperation.Comparable operations
      .new) :
    SameAnswers (memoryStorage T) (sqliteStorage L)
      ((MemoryStorage.machine T).after operations .new)
      ((SqliteStorage.machine L).after operations .new) ∧
    ∀ earlier operation later, operations = earlier ++ operation :: later →
      let store := (MemoryStorage.machine T).after earlier .new
      let store' := (SqliteStorage.machine L).after earlier .new
      SameAnswers (memoryStorage T) (sqliteStorage L) store store' ∧
      ((MemoryStorage.machine T operation store).1 = .ok () ↔
        (SqliteStorage.machine L operation store').1 = .ok ()) := by
  refine ⟨(related_after L comparable).sameAnswers, ?_⟩
  rintro earlier operation later rfl
  obtain ⟨comparable, comparable'⟩ := Machine.throughout_append.mp comparable
  have related := related_after L comparable
  exact ⟨related.sameAnswers, (related.step comparable'.1).1⟩

/-- A channel that is used, paid and closed. -/
def Sample.usedClose : List (StorageOperation Sample.carriers) :=
  [.saveFunding "c" (Sample.funding "a"),
    .incrementUsage "c" ((∅ : Table String Nat).insert "chars" 5),
    .updateBalance "c" ⟨5, "five"⟩, .markClosing "c" ⟨0, 5, "five"⟩,
    .markClosed "c" ⟨0, 5, 8, 5, 3, .null, .null⟩]

theorem stores_interchangeable_used :
    SameAnswers (memoryStorage Sample.carriers) (sqliteStorage Sample.library)
      ((MemoryStorage.machine Sample.carriers).after Sample.usedClose .new)
      ((SqliteStorage.machine Sample.library).after Sample.usedClose .new) := by
  have counts : ∀ var, 0 + (((∅ : Table String Nat).insert "chars" 5).lookup var).getD 0 <
      2 ^ 63 := by
    intro var
    by_cases chars : var = "chars"
    · rw [chars, AList.lookup_insert]
      decide
    · rw [AList.lookup_insert_ne chars, AList.lookup_empty]
      decide
  have comparable : (MemoryStorage.machine Sample.carriers).Throughout
      StorageOperation.Comparable Sample.usedClose .new := by
    refine ⟨trivial, counts, ⟨by decide, by decide⟩, ?_, ?_, trivial⟩
    · show MemoryStorage.getState _ _ ≠ _
      decide +kernel
    · show MemoryStorage.getState _ _ ≠ _
      decide +kernel
  exact (stores_interchangeable Sample.library comparable).1

/-- A close that is marked for a channel without funding is taken by one store only. -/
theorem stores_differ :
    (MemoryStorage.machine Sample.carriers (.markClosing "c" ⟨0, 1, "one"⟩) .new).1 = .ok () ∧
      (SqliteStorage.machine Sample.library (.markClosing "c" ⟨0, 1, "one"⟩) .new).1 =
        .error "channel not found or already closed" := by
  decide +kernel

end Spilman
