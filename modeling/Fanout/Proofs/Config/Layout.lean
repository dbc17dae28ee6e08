import Fanout.Config.Basic
import Mathlib.Data.List.Nodup
import Mathlib.Tactic.MkIffOfInductiveProp
import Mathlib.Tactic.Tauto

/-!
# When a cluster file describes a cluster

Five rules bear on a segment: three on what it says itself, two on what was said before it. A file is
accepted just if jobs, coordinator and segments are as they should be, and this does not hang on the
order of the segments. A file that is refused is refused for its first breach, by segments as listed and
by rules as they are reported, and told so by what the segment holds or where it listens.
-/
namespace Fanout

/-- A hostname with something in it that is not blank. -/
def Named (hostname : String) : Prop :=
  ∃ c ∈ hostname.toList, Text.isBlank c = false

theorem isBlankText_iff {hostname : String} :
    Text.isBlankText hostname = true ↔ ¬ Named hostname := by
  simp [Text.isBlankText, Named]

instance (hostname : String) : Decidable (Named hostname) :=
  decidable_of_iff (¬ Text.isBlankText hostname = true) (not_congr isBlankText_iff |>.trans not_not)

/-- A text stands in a message, and a space parts it from what stands beside it. -/
def Mentions (message text : String) : Prop :=
  ∃ front rest, message = front ++ text ++ rest ∧ (∀ c ∈ front.toList.getLast?, c = ' ') ∧
    ∀ c ∈ rest.toList.head?, c = ' '

/-! ## The rules for a segment -/

inductive SegmentRule where
  | hostname
  | content
  | role
  | endpoint
  | assignment
  deriving DecidableEq

namespace SegmentRule

/-- The rules in the order in which a segment is told of them. -/
def all : List SegmentRule := [.hostname, .content, .role, .endpoint, .assignment]

/-- A segment breaks a rule by itself, or against the coordinator and the segments before it. -/
def Broken (k : Option CoordinatorEntry) (before : List SegmentEntry) (s : SegmentEntry) :
    SegmentRule → Prop
  | .hostname => ¬ Named s.hostname
  | .content => s.content < 0
  | .role => s.role = .coordinator
  | .endpoint => (∃ t ∈ before, t.hostname = s.hostname ∧ t.port = s.port) ∨
      ∃ t ∈ k, t.hostname = s.hostname ∧ t.port = some s.port
  | .assignment => ∃ t ∈ before, t.content = s.content ∧ t.role = s.role

instance (k : Option CoordinatorEntry) (before : List SegmentEntry) (s : SegmentEntry) :
    (rule : SegmentRule) → Decidable (rule.Broken k before s)
  | .hostname => inferInstanceAs (Decidable (¬ Named s.hostname))
  | .content => inferInstanceAs (Decidable (s.content < 0))
  | .role => inferInstanceAs (Decidable (s.role = .coordinator))
  | .endpoint => inferInstanceAs (Decidable ((∃ t ∈ before, t.hostname = s.hostname ∧ t.port = s.port) ∨
      ∃ t ∈ k, t.hostname = s.hostname ∧ t.port = some s.port))
  | .assignment => inferInstanceAs (Decidable (∃ t ∈ before, t.content = s.content ∧ t.role = s.role))

/-- What is said of a segment that breaks a rule. -/
def breach (s : SegmentEntry) : SegmentRule → LayoutError
  | .hostname => .blankHostname s.content
  | .content => .negativeContent s
  | .role => .coordinatorRole s
  | .endpoint => .repeatedEndpoint s
  | .assignment => .repeatedRole s

/-- What a segment is called by when it breaks a rule: what it holds, or where it listens. -/
def subjects (s : SegmentEntry) : SegmentRule → List String
  | .hostname => [toString s.content.toInt]
  | .content => [s.hostname ++ ":" ++ toString s.port.toNat, toString s.content.toInt]
  | .role | .endpoint => [s.hostname ++ ":" ++ toString s.port.toNat]
  | .assignment => [toString s.content.toInt, s.role.name]

theorem mentions_breach (s : SegmentEntry) (rule : SegmentRule) :
    ∀ subject ∈ rule.subjects s, Mentions (rule.breach s).message subject := by
  cases rule with
  | hostname =>
      simp only [subjects, List.forall_mem_singleton]
      exact ⟨"segment ", " has an empty hostname", rfl, by simp, by simp⟩
  | content =>
      simp only [subjects, List.forall_mem_cons, List.not_mem_nil, false_imp_iff, implies_true, and_true]
      constructor
      · exact ⟨"segment ", " has negative content id " ++ toString s.content.toInt,
          String.append_assoc, by simp, by simp⟩
      · exact ⟨"segment " ++ s.endpoint ++ " has negative content id ", "", String.append_empty.symm,
          by simp [List.getLast?_cons], by simp⟩
  | role =>
      simp only [subjects, List.forall_mem_singleton]
      exact ⟨"segment ", " cannot have role coordinator", rfl, by simp, by simp⟩
  | endpoint =>
      simp only [subjects, List.forall_mem_singleton]
      exact ⟨"", " is listed more than once", rfl, by simp, by simp⟩
  | assignment =>
      simp only [subjects, List.forall_mem_cons, List.not_mem_nil, false_imp_iff, implies_true, and_true]
      constructor
      · exact ⟨"content ", " has more than one " ++ s.role.name, String.append_assoc, by simp,
          by simp⟩
      · exact ⟨"content " ++ toString s.content.toInt ++ " has more than one ", "",
          String.append_empty.symm, by simp [List.getLast?_cons], by simp⟩

/-- The first rule that a segment breaks. -/
def firstBroken? (k : Option CoordinatorEntry) (before : List SegmentEntry) (s : SegmentEntry) :
    Option SegmentRule :=
  all.find? fun rule => rule.Broken k before s

theorem firstBroken?_eq_none_iff {k : Option CoordinatorEntry} {before : List SegmentEntry}
    {s : SegmentEntry} :
    firstBroken? k before s = none ↔ ∀ rule : SegmentRule, ¬ rule.Broken k before s := by
  rw [firstBroken?, List.find?_eq_none]
  constructor
  · intro h rule
    simpa using h rule (by cases rule <;> decide)
  · intro h rule _
    simpa using h rule

end SegmentRule

variable {k : Option CoordinatorEntry} {before segments : List SegmentEntry} {s : SegmentEntry}
  {endpoints : List Endpoint} {roles : List (Int32 × Role)}

/-- Two tables hold what the entries so far forbid to the next segment. -/
structure Tabulated (k : Option CoordinatorEntry) (before : List SegmentEntry)
    (endpoints : List Endpoint) (roles : List (Int32 × Role)) : Prop where
  endpoint (s : SegmentEntry) :
    (s.hostname, some s.port) ∈ endpoints ↔ SegmentRule.endpoint.Broken k before s
  assignment (s : SegmentEntry) :
    (s.content, s.role) ∈ roles ↔ SegmentRule.assignment.Broken k before s

namespace Tabulated

theorem none : Tabulated none [] [] [] := by
  constructor <;> simp [SegmentRule.Broken]

theorem some (k : CoordinatorEntry) : Tabulated (some k) [] [(k.hostname, k.port)] [] := by
  constructor <;> simp [SegmentRule.Broken, eq_comm]

theorem step (h : Tabulated k before endpoints roles) (s : SegmentEntry) :
    Tabulated k (before ++ [s]) ((s.hostname, .some s.port) :: endpoints)
      ((s.content, s.role) :: roles) := by
  constructor
  · intro t
    rw [List.mem_cons, h.endpoint]
    simp only [SegmentRule.Broken, List.mem_append, List.mem_singleton, or_and_right, exists_or,
      exists_eq_left, Prod.mk.injEq, Option.some.injEq]
    rw [eq_comm (a := t.hostname), eq_comm (a := t.port), or_assoc, or_left_comm]
  · intro t
    rw [List.mem_cons, h.assignment]
    simp only [SegmentRule.Broken, List.mem_append, List.mem_singleton, or_and_right, exists_or,
      exists_eq_left, Prod.mk.injEq]
    rw [eq_comm (a := t.content), eq_comm (a := t.role), or_comm]

/-- A segment is told of the first rule that it breaks. -/
theorem invalid?_eq (h : Tabulated k before endpoints roles) : s.invalid? endpoints roles =
    (SegmentRule.firstBroken? k before s).map (SegmentRule.breach s) := by
  have hhostname : Text.isBlankText s.hostname = true ↔ SegmentRule.hostname.Broken k before s :=
    isBlankText_iff
  have hcontent : s.content < 0 ↔ SegmentRule.content.Broken k before s := Iff.rfl
  have hrole : s.role = .coordinator ↔ SegmentRule.role.Broken k before s := Iff.rfl
  simp only [SegmentEntry.invalid?, hhostname, hcontent, hrole, h.endpoint, h.assignment,
    SegmentRule.firstBroken?, SegmentRule.all, List.find?_cons, List.find?_nil]
  split_ifs <;> simp [*, SegmentRule.breach]

end Tabulated

/-! ## A list of segments -/

/-- Each of some segments keeps every rule against what was said before it. -/
def Orderly (k : Option CoordinatorEntry) (before segments : List SegmentEntry) : Prop :=
  ∀ earlier s later, segments = earlier ++ s :: later →
    ∀ rule : SegmentRule, ¬ rule.Broken k (before ++ earlier) s

theorem orderly_nil : Orderly k before [] := by
  intro earlier s later h
  simp at h

theorem orderly_cons {ss : List SegmentEntry} : Orderly k before (s :: ss) ↔
    (∀ rule : SegmentRule, ¬ rule.Broken k before s) ∧ Orderly k (before ++ [s]) ss := by
  constructor
  · intro h
    refine ⟨fun rule => by simpa using h [] s ss rfl rule, ?_⟩
    rintro earlier t later rfl rule
    simpa using h (s :: earlier) t later rfl rule
  · rintro ⟨hs, hss⟩ earlier t later h rule
    rcases List.cons_eq_append_iff.mp h with ⟨rfl, ht⟩ | ⟨earlier, rfl, rfl⟩
    · obtain ⟨rfl, -⟩ := List.cons.inj ht
      simpa using hs rule
    · simpa using hss earlier t later rfl rule

theorem firstInvalid_eq_none_iff (h : Tabulated k before endpoints roles) :
    firstInvalid endpoints roles segments = none ↔ Orderly k before segments := by
  induction segments generalizing before endpoints roles with
  | nil => exact iff_of_true rfl orderly_nil
  | cons s ss ih =>
      rw [firstInvalid, orderly_cons, ← SegmentRule.firstBroken?_eq_none_iff, h.invalid?_eq,
        ← ih (h.step s)]
      cases SegmentRule.firstBroken? k before s <;> simp

/-- A segment breaks a rule, the first one that it breaks, and no segment before it breaks any. -/
def FirstBreach (k : Option CoordinatorEntry) (before segments : List SegmentEntry)
    (s : SegmentEntry) (rule : SegmentRule) : Prop :=
  ∃ earlier later, segments = earlier ++ s :: later ∧ Orderly k before earlier ∧
    SegmentRule.firstBroken? k (before ++ earlier) s = some rule

theorem firstBreach_cons {t : SegmentEntry} {ts : List SegmentEntry} {rule : SegmentRule} :
    FirstBreach k before (t :: ts) s rule ↔
      (t = s ∧ SegmentRule.firstBroken? k before t = some rule) ∨
      (SegmentRule.firstBroken? k before t = none ∧ FirstBreach k (before ++ [t]) ts s rule) := by
  constructor
  · rintro ⟨earlier, later, h, hbefore, hs⟩
    rcases List.cons_eq_append_iff.mp h with ⟨rfl, ht⟩ | ⟨earlier, rfl, rfl⟩
    · obtain ⟨rfl, -⟩ := List.cons.inj ht
      exact .inl ⟨rfl, by simpa using hs⟩
    · obtain ⟨ht, hrest⟩ := orderly_cons.mp hbefore
      exact .inr ⟨SegmentRule.firstBroken?_eq_none_iff.mpr ht, earlier, later, rfl, hrest,
        by simpa using hs⟩
  · rintro (⟨rfl, hs⟩ | ⟨ht, earlier, later, rfl, hrest, hs⟩)
    · exact ⟨[], ts, rfl, orderly_nil, by simpa using hs⟩
    · refine ⟨t :: earlier, later, rfl, ?_, by simpa using hs⟩
      exact orderly_cons.mpr ⟨SegmentRule.firstBroken?_eq_none_iff.mp ht, hrest⟩

/-- A list of segments is refused for its first breach. -/
theorem firstInvalid_eq_some_iff (h : Tabulated k before endpoints roles) {e : LayoutError} :
    firstInvalid endpoints roles segments = some e ↔
      ∃ s rule, FirstBreach k before segments s rule ∧ rule.breach s = e := by
  induction segments generalizing before endpoints roles with
  | nil => simp [firstInvalid, FirstBreach]
  | cons t ts ih =>
      simp only [firstInvalid, h.invalid?_eq, firstBreach_cons]
      cases SegmentRule.firstBroken? k before t with
      | none => simpa using ih (h.step t)
      | some rule => simp

/-! ## Order does not matter -/

/-- What is asked of the segments of a file, whatever the order in which they are listed. -/
@[mk_iff]
structure WellListed (k : Option CoordinatorEntry) (segments : List SegmentEntry) : Prop where
  named : ∀ s ∈ segments, Named s.hostname
  content : ∀ s ∈ segments, 0 ≤ s.content
  role : ∀ s ∈ segments, s.role ≠ .coordinator
  /-- No two segments listen at one place. -/
  endpoints : (segments.map fun s => (s.hostname, s.port)).Nodup
  /-- No segment listens where the coordinator does. -/
  apart : ∀ t ∈ k, ∀ s ∈ segments, t.hostname = s.hostname → t.port ≠ some s.port
  /-- No two segments hold one content in one role. -/
  assignments : (segments.map fun s => (s.content, s.role)).Nodup

theorem wellListed_nil : WellListed k [] := by
  constructor <;> simp

/-- A segment keeps every rule just if it is well by itself and differs from those before it. -/
theorem keeps_iff : (∀ rule : SegmentRule, ¬ rule.Broken k before s) ↔
    Named s.hostname ∧ 0 ≤ s.content ∧ s.role ≠ .coordinator ∧
    (∀ t ∈ before, (t.hostname, t.port) ≠ (s.hostname, s.port)) ∧
    (∀ c ∈ k, c.hostname = s.hostname → c.port ≠ some s.port) ∧
    ∀ t ∈ before, (t.content, t.role) ≠ (s.content, s.role) := by
  constructor
  · intro h
    refine ⟨not_not.mp (h .hostname), Int32.not_lt.mp (h .content), h .role, ?_, ?_, ?_⟩
    · intro t ht he
      obtain ⟨hname, hport⟩ := Prod.mk.inj he
      exact h .endpoint (.inl ⟨t, ht, hname, hport⟩)
    · exact fun c hc hname hport => h .endpoint (.inr ⟨c, hc, hname, hport⟩)
    · intro t ht he
      obtain ⟨hcontent, hrole⟩ := Prod.mk.inj he
      exact h .assignment ⟨t, ht, hcontent, hrole⟩
  · rintro ⟨hnamed, hcontent, hrole, hplace, hapart, hassign⟩ (_ | _ | _ | _ | _) hbroken
    case hostname => exact hbroken hnamed
    case content => exact Int32.not_lt.mpr hcontent hbroken
    case role => exact hrole hbroken
    case endpoint =>
      rcases hbroken with ⟨t, ht, hname, hport⟩ | ⟨c, hc, hname, hport⟩
      · exact hplace t ht (by rw [hname, hport])
      · exact hapart c hc hname hport
    case assignment =>
      obtain ⟨t, ht, hsame, hboth⟩ := hbroken
      exact hassign t ht (by rw [hsame, hboth])

theorem wellListed_concat : WellListed k (before ++ [s]) ↔
    WellListed k before ∧ ∀ rule : SegmentRule, ¬ rule.Broken k before s := by
  have hnew {α : Type} (f : SegmentEntry → α) : ((before ++ [s]).map f).Nodup ↔
      (before.map f).Nodup ∧ ∀ t ∈ before, f t ≠ f s := by
    simp [List.nodup_append]
  simp only [wellListed_iff, keeps_iff, hnew, List.forall_mem_append, List.forall_mem_singleton,
    forall_and]
  tauto

theorem wellListed_append : WellListed k (before ++ segments) ↔
    WellListed k before ∧ Orderly k before segments := by
  induction segments generalizing before with
  | nil => simp [orderly_nil]
  | cons s ss ih =>
      have hsplit : before ++ s :: ss = (before ++ [s]) ++ ss := by simp
      rw [hsplit, ih, wellListed_concat, orderly_cons, and_assoc]

theorem orderly_iff : Orderly k [] segments ↔ WellListed k segments := by
  rw [← List.nil_append segments, wellListed_append]
  exact (and_iff_right wellListed_nil).symm

theorem WellListed.of_perm {segments' : List SegmentEntry} (h : WellListed k segments)
    (hperm : segments.Perm segments') : WellListed k segments' where
  named s hs := h.named s (hperm.mem_iff.mpr hs)
  content s hs := h.content s (hperm.mem_iff.mpr hs)
  role s hs := h.role s (hperm.mem_iff.mpr hs)
  endpoints := (hperm.map _).nodup_iff.mp h.endpoints
  apart t ht s hs := h.apart t ht s (hperm.mem_iff.mpr hs)
  assignments := (hperm.map _).nodup_iff.mp h.assignments

namespace Config

variable {c : Config}

/-- A file that describes a cluster. -/
structure WellFormed (c : Config) : Prop where
  jobs : 1 ≤ c.dispatch.jobs
  coordinator : ∀ k ∈ c.coordinator, Named k.hostname
  segments : WellListed c.coordinator c.segments

/-- With jobs and a coordinator that is well by itself, the segments decide. -/
theorem exists_tabulated (hjobs : c.dispatch.jobs ≠ 0)
    (hnamed : ∀ k ∈ c.coordinator, Named k.hostname) :
    ∃ endpoints, Tabulated c.coordinator [] endpoints [] ∧
      c.invalid? = firstInvalid endpoints [] c.segments := by
  cases hk : c.coordinator with
  | none => exact ⟨[], .none, by simp only [invalid?, hjobs, hk, if_false]⟩
  | some k =>
      have hk' : Text.isBlankText k.hostname = false :=
        Bool.not_eq_true _ ▸ fun h => isBlankText_iff.mp h (hnamed k hk)
      exact ⟨_, .some k, by simp only [invalid?, hjobs, hk, hk', if_false, Bool.false_eq_true]⟩

theorem invalid?_of_unnamed (hjobs : c.dispatch.jobs ≠ 0)
    (hunnamed : ∃ k ∈ c.coordinator, ¬ Named k.hostname) : c.invalid? = some .blankCoordinator := by
  obtain ⟨k, hk, hblank⟩ := hunnamed
  have hk : c.coordinator = some k := hk
  simp only [invalid?, hjobs, hk, isBlankText_iff.mpr hblank, if_false, if_true]

theorem one_le_jobs_iff : 1 ≤ c.dispatch.jobs ↔ c.dispatch.jobs ≠ 0 := by
  rw [UInt64.le_iff_toNat_le, ne_eq, ← UInt64.toNat_inj]
  exact Nat.one_le_iff_ne_zero

theorem invalid?_eq_none_iff : c.invalid? = none ↔ c.WellFormed := by
  by_cases hjobs : c.dispatch.jobs = 0
  · exact iff_of_false (by simp [invalid?, hjobs]) fun h => one_le_jobs_iff.mp h.jobs hjobs
  · by_cases hnamed : ∀ k ∈ c.coordinator, Named k.hostname
    · obtain ⟨endpoints, htable, heq⟩ := exists_tabulated hjobs hnamed
      rw [heq, firstInvalid_eq_none_iff htable, orderly_iff]
      exact ⟨fun h => ⟨one_le_jobs_iff.mpr hjobs, hnamed, h⟩, fun h => h.segments⟩
    · rw [invalid?_of_unnamed hjobs (by simpa using hnamed)]
      exact iff_of_false (by simp) fun h => hnamed h.coordinator

/-- The message of a refusal is about the jobs, about the coordinator, or names the segment of the first
breach. -/
theorem message_of_invalid? {e : LayoutError} (h : c.invalid? = some e) :
    e.message = "dispatch.jobs must be at least 1" ∨
    e.message = "coordinator hostname cannot be empty" ∨
    ∃ s rule, FirstBreach c.coordinator [] c.segments s rule ∧
      ∀ subject ∈ rule.subjects s, Mentions e.message subject := by
  by_cases hjobs : c.dispatch.jobs = 0
  · rw [invalid?, if_pos hjobs] at h
    cases h
    exact .inl rfl
  · by_cases hnamed : ∀ k ∈ c.coordinator, Named k.hostname
    · obtain ⟨endpoints, htable, heq⟩ := exists_tabulated hjobs hnamed
      obtain ⟨s, rule, hfirst, rfl⟩ := (firstInvalid_eq_some_iff htable).mp (heq ▸ h)
      exact .inr (.inr ⟨s, rule, hfirst, rule.mentions_breach s⟩)
    · rw [invalid?_of_unnamed hjobs (by simpa using hnamed)] at h
      cases h
      exact .inr (.inl rfl)

/-- A file is accepted just if it is well formed. One that is refused is refused for having no jobs, else
for a coordinator without a name, else for the first breach among its segments. -/
theorem accepted_or_first_breach (c : Config) :
    (c.invalid? = none ↔ c.WellFormed) ∧
    (∀ segments, c.segments.Perm segments →
      ({ c with segments }.invalid? = none ↔ c.invalid? = none)) ∧
    (c.dispatch.jobs = 0 → c.invalid? = some .noJobs) ∧
    (c.dispatch.jobs ≠ 0 → (∃ k ∈ c.coordinator, ¬ Named k.hostname) →
      c.invalid? = some .blankCoordinator) ∧
    (c.dispatch.jobs ≠ 0 → (∀ k ∈ c.coordinator, Named k.hostname) → ∀ e, c.invalid? = some e ↔
      ∃ s rule, FirstBreach c.coordinator [] c.segments s rule ∧ rule.breach s = e) := by
  refine ⟨invalid?_eq_none_iff, fun segments hperm => ?_, fun hjobs => ?_, invalid?_of_unnamed, ?_⟩
  · rw [invalid?_eq_none_iff, invalid?_eq_none_iff]
    exact ⟨fun h => ⟨h.jobs, h.coordinator, h.segments.of_perm hperm.symm⟩,
      fun h => ⟨h.jobs, h.coordinator, h.segments.of_perm hperm⟩⟩
  · rw [invalid?, if_pos hjobs]
  · intro hjobs hnamed e
    obtain ⟨endpoints, htable, heq⟩ := exists_tabulated hjobs hnamed
    rw [heq, firstInvalid_eq_some_iff htable]

/-- The second segment listens where the first one does and holds its content; the third has no name. -/
def crowded : Config :=
  { coordinator := some ⟨"cdw", some 5432, none⟩
    segments := [⟨0, .primary, "sdw1", 6000, none⟩, ⟨0, .primary, "sdw1", 6000, some "/data"⟩,
      ⟨-1, .coordinator, " ", 5432, none⟩]
    dispatch := .default
    ssh := .default }

theorem accepted_or_first_breach_crowded :
    crowded.invalid? = some (.repeatedEndpoint ⟨0, .primary, "sdw1", 6000, some "/data"⟩) ∧
    ¬ crowded.WellFormed ∧ { crowded with segments := crowded.segments.reverse }.invalid? ≠ none ∧
    { crowded with dispatch := ⟨0, true, 0⟩ }.invalid? = some .noJobs ∧
    { crowded with coordinator := some ⟨"\t", none, none⟩ }.invalid? = some .blankCoordinator := by
  obtain ⟨haccepted, hperm, -, -, hbreach⟩ := accepted_or_first_breach crowded
  have hfirst : crowded.invalid? =
      some (.repeatedEndpoint ⟨0, .primary, "sdw1", 6000, some "/data"⟩) := by
    refine (hbreach (by decide) (by decide) _).mpr
      ⟨_, .endpoint, ⟨[_], [_], rfl, ?_, by decide⟩, rfl⟩
    exact orderly_cons.mpr ⟨keeps_iff.mpr (by decide), orderly_nil⟩
  have hnone : crowded.invalid? ≠ none := hfirst ▸ nofun
  refine ⟨hfirst, fun h => hnone (haccepted.mpr h), ?_, ?_, ?_⟩
  · exact fun h => hnone ((hperm _ (List.reverse_perm _).symm).mp h)
  · exact (accepted_or_first_breach _).2.2.1 rfl
  · exact (accepted_or_first_breach _).2.2.2.1 (by decide) ⟨_, rfl, by decide⟩

end Config

end Fanout
