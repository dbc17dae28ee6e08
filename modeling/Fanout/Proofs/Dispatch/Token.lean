import Fanout.Proofs.Dispatch.Ledger

/-!
# When the token has fired

Under fail-fast the token has fired, or is about to be fired, exactly when an operation has failed.
A host is cancelled only after it fired, and of the workers that fire it only one says so.
-/
namespace Fanout.Dispatch

/-! ## Hosts whose operation failed -/

def Event.fell? : Event → Option Host
  | .executed h a => if a.outcome.isFailure then some h else none
  | _ => none

/-- The hosts whose operation failed, in the order of the failures. -/
def fallen (journal : List Event) : List Host :=
  journal.filterMap Event.fell?

@[simp] theorem fallen_nil : fallen [] = [] := rfl

@[simp] theorem fallen_append (es fs : List Event) : fallen (es ++ fs) = fallen es ++ fallen fs := by
  simp [fallen]

@[simp] theorem fallen_logged (log : List Log.Record) : fallen (log.map .logged) = [] := by
  simp [fallen, Event.fell?]

theorem mem_fallen {h : Host} {journal : List Event} : h ∈ fallen journal ↔
    ∃ a, .executed h a ∈ journal ∧ a.outcome.isFailure = true := by
  simp only [fallen, List.mem_filterMap]
  constructor
  · rintro ⟨e, he, hf⟩
    cases e <;> simp only [Event.fell?, reduceCtorEq] at hf
    rename_i a
    split at hf <;> cases hf
    exact ⟨a, he, ‹_›⟩
  · rintro ⟨a, ha, hf⟩
    exact ⟨_, ha, by simp [Event.fell?, hf]⟩

theorem outcome_ne_cancelled (a : Answer) : a.outcome ≠ .cancelled := by
  cases a <;> simp [Answer.outcome]

/-! ## Failing workers -/

def Phase.isFailing {n : Nat} : Phase n → Bool
  | .failing _ _ => true
  | _ => false

/-- What holds of some worker holds of some worker still after another one moved. -/
theorem exists_mem_set_iff {n : Nat} {workers : List (Phase n)} {w : Nat} {p q : Phase n}
    {F : Phase n → Prop} (hw : workers[w]? = some p) (hp : ¬ F p) :
    (∃ r ∈ workers.set w q, F r) ↔ F q ∨ ∃ r ∈ workers, F r := by
  constructor
  · rintro ⟨r, hr, hF⟩
    rcases List.mem_or_eq_of_mem_set hr with hr | rfl
    · exact Or.inr ⟨r, hr, hF⟩
    · exact Or.inl hF
  · rintro (hF | ⟨r, hr, hF⟩)
    · exact ⟨q, List.mem_set (List.getElem?_eq_some_iff.mp hw).1 q, hF⟩
    · obtain ⟨v, hv⟩ := List.getElem?_of_mem hr
      have hvw : w ≠ v := by
        rintro rfl
        obtain rfl : p = r := Option.some.inj (hw.symm.trans hv)
        exact hp hF
      exact ⟨r, List.mem_of_getElem? ((List.getElem?_set_ne hvw).trans hv), hF⟩

/-! ## The invariant -/

structure Token (policy : Policy) (hosts : HostSet) (s : State hosts.size) : Prop where
  fired_iff : (s.cancelled = true ∨ ∃ p ∈ s.workers, p.isFailing = true) ↔
    policy.continueOnError = false ∧ fallen s.journal ≠ []
  skipped : ∀ i, .settled i .cancelled ∈ s.workers → s.cancelled = true
  closed : ∀ h, .completed h .cancelled ∈ s.journal → s.cancelled = true

namespace Token

variable {policy : Policy} {hosts : HostSet} {s s' : State hosts.size} {l : Label}

theorem initial (policy : Policy) (hosts : HostSet) :
    Token policy hosts (State.initial policy hosts) where
  fired_iff := by simp [State.initial, Phase.isFailing]
  skipped := by simp [State.initial]
  closed := by simp [State.initial]

/-- A step that has nothing to do with failures. -/
theorem keep (h : Token policy hosts s) {w : Nat} {p q : Phase hosts.size}
    (hw : s.workers[w]? = some p) (hp : p.isFailing = false) (hq : q.isFailing = false)
    (hworkers : s'.workers = s.workers.set w q) (hcancelled : s'.cancelled = s.cancelled)
    (hfallen : policy.continueOnError = false → (fallen s'.journal ≠ [] ↔ fallen s.journal ≠ []))
    (hskip : ∀ i, q = .settled i .cancelled → s.cancelled = true)
    (hclosed : ∀ h, .completed h .cancelled ∈ s'.journal →
      .completed h .cancelled ∈ s.journal ∨ s.cancelled = true) :
    Token policy hosts s' where
  fired_iff := by
    rw [hworkers, hcancelled, exists_mem_set_iff hw (by simp [hp]), and_congr_right hfallen,
      ← h.fired_iff]
    simp [hq]
  skipped := by
    intro i hi
    rw [hcancelled]
    rcases List.mem_or_eq_of_mem_set (hworkers ▸ hi) with hi | hi
    · exact h.skipped i hi
    · exact hskip i hi.symm
  closed := by
    intro x hx
    rw [hcancelled]
    exact (hclosed x hx).elim (h.closed x) id

theorem advance (h : Token policy hosts s) {w : Nat} {i : Fin hosts.size} {p p' : Phase hosts.size}
    {es : List Event} {fired : Bool} (hw : s.workers[w]? = some p)
    (ha : Advance policy hosts w i s.cancelled l p p' es fired) :
    Token policy hosts (({ s with cancelled := fired }.put w p').note es) := by
  cases ha with
  | clear =>
      exact h.keep hw rfl rfl rfl rfl (by simp [State.note, State.put]) (by simp)
        (by simp [State.note, State.put]; tauto)
  | skip hc =>
      exact h.keep hw rfl rfl rfl rfl (by simp [State.note, State.put]) (fun _ _ => hc)
        (fun _ _ => Or.inr hc)
  | start =>
      exact h.keep hw rfl rfl rfl rfl (by simp [State.note, State.put, fallen, Event.fell?])
        (by simp) (by simp [State.note, State.put]; tauto)
  | fail e hf hp =>
      constructor
      case fired_iff =>
        have hfail : ∃ r ∈ s.workers.set w (.failing i e.answer.outcome), r.isFailing = true :=
          (exists_mem_set_iff hw (by simp [Phase.isFailing])).mpr (Or.inl rfl)
        simpa [State.note, State.put, hp, fallen, Event.fell?, hf] using Or.inr hfail
      case skipped => exact fun j hj => h.skipped j (mem_of_mem_set hj (by simp))
      case closed => exact fun x hx => h.closed x (by simpa [State.note, State.put] using hx)
  | settle e he =>
      refine h.keep hw rfl rfl rfl rfl (fun hp => ?_) ?_ ?_
      · have hf : e.answer.outcome.isFailure = false := by
          by_contra hne
          rw [he (by simpa using hne)] at hp
          cases hp
        simp [State.note, State.put, fallen, Event.fell?, hf]
      · intro j hj
        exact absurd (by injection hj) (outcome_ne_cancelled e.answer)
      · exact fun x hx => Or.inl (by simpa [State.note, State.put] using hx)
  | fire hc o =>
      have hfell := h.fired_iff.mp (Or.inr ⟨_, List.mem_of_getElem? hw, rfl⟩)
      constructor
      case fired_iff => simpa [State.note, State.put] using ⟨hfell.1, fun hnil => absurd hnil hfell.2⟩
      case skipped => exact fun _ _ => rfl
      case closed => exact fun _ _ => rfl
  | refire hc o =>
      have hfell := h.fired_iff.mp (Or.inr ⟨_, List.mem_of_getElem? hw, rfl⟩)
      constructor
      case fired_iff => simpa [State.note, State.put] using hfell
      case skipped => exact fun _ _ => rfl
      case closed => exact fun _ _ => rfl
  | announce o =>
      refine h.keep hw rfl rfl rfl rfl (by simp [State.note, State.put, fallen, Event.fell?])
        (by simp) fun x hx => ?_
      rcases List.mem_append.mp hx with hx | hx
      · exact Or.inl hx
      · obtain ⟨-, rfl⟩ : x = hostAt hosts i ∧ Outcome.cancelled = o := by simpa using hx
        exact Or.inr (h.skipped i (List.mem_of_getElem? hw))

theorem action (h : Token policy hosts s) (hl : Ledger hosts s)
    (ha : Action policy hosts s l s') : Token policy hosts s' := by
  cases ha with
  | pull hw hn => exact h.keep hw rfl rfl rfl rfl (fun _ => Iff.rfl) (by simp) fun _ => Or.inl
  | leave hw hn => exact h.keep hw rfl rfl rfl rfl (fun _ => Iff.rfl) (by simp) fun _ => Or.inl
  | advance hw ha => exact h.advance hw ha
  | record hw hc => exact h.keep hw rfl rfl rfl rfl (fun _ => Iff.rfl) (by simp) fun _ => Or.inl
  | refuse r hw hc =>
      rw [hl.record_eq_ok hw] at hc
      cases hc

theorem of_steps {labels : List Label}
    (h : steps policy hosts (State.initial policy hosts) labels = some s) : Token policy hosts s :=
  (steps_induction (P := fun s => Ledger hosts s ∧ Token policy hosts s)
    (fun ht ha => ⟨ht.1.action ha, ht.2.action ht.1 ha⟩) h
    ⟨.initial policy hosts, .initial policy hosts⟩).2

/-- A policy that goes on after failures never fires the token. -/
theorem cancelled_eq_false (ht : Token policy hosts s)
    (hp : policy.continueOnError = true) : s.cancelled = false := by
  by_contra hc
  have := (ht.fired_iff.mp (Or.inl (by simpa using hc))).1
  rw [hp] at this
  cases this

end Token

/-! ## What the pool says of the token -/

def Event.record? : Event → Option Log.Record
  | .logged r => some r
  | _ => none

def logged (journal : List Event) : List Log.Record :=
  journal.filterMap Event.record?

@[simp] theorem logged_append (es fs : List Event) : logged (es ++ fs) = logged es ++ logged fs := by
  simp [logged]

@[simp] theorem logged_map (log : List Log.Record) : logged (log.map .logged) = log := by
  simp [logged, List.filterMap_map, Function.comp_def, Event.record?]

theorem logged_executed (h : Host) (e : Execution) :
    logged (e.log.map .logged ++ [.executed h e.answer]) = e.log := by
  rw [logged_append, logged_map]
  exact List.append_nil _

/-- What the operation that ends with a step wrote to the log. -/
def Label.log : Label → List Log.Record
  | .move _ => []
  | .finish _ e => e.log

/-- What the pool itself has to say, given whether the token has fired and the hosts that failed. -/
inductive Notice : Bool → List Host → List Log.Record → Prop where
  | none {hs : List Host} : Notice false hs []
  | one {hs : List Host} {h : Host} (hh : h ∈ hs) : Notice true hs [fireRecord h]

theorem Notice.mono {fired : Bool} {hs hs' : List Host} {own : List Log.Record}
    (hn : Notice fired hs own) : Notice fired (hs ++ hs') own := by
  cases hn with
  | none => exact .none
  | one hh => exact .one (List.mem_append_left _ hh)

/-- The log holds what the operations wrote and the pool's own notice. -/
def Told {n : Nat} (labels : List Label) (s : State n) : Prop :=
  ∃ own, (logged s.journal).Perm (labels.flatMap Label.log ++ own) ∧
    Notice s.cancelled (fallen s.journal) own

section Told

variable {policy : Policy} {hosts : HostSet} {s s' : State hosts.size} {l : Label}
  {labels : List Label}

/-- The host in the hands of a failing worker is one whose operation failed. -/
theorem Ledger.mem_fallen (h : Ledger hosts s) {w : Nat} {i : Fin hosts.size} {o : Outcome}
    (hw : s.workers[w]? = some (.failing i o)) : hostAt hosts i ∈ fallen s.journal := by
  have ht := h.inHand w _ i hw rfl
  generalize htrail : trail (hostAt hosts i) s.journal = t at ht
  cases ht with
  | failing hf =>
      rename_i a
      have ha : .executed (hostAt hosts i) a ∈ trail (hostAt hosts i) s.journal := by simp [htrail]
      exact Dispatch.mem_fallen.mpr ⟨a, (mem_trail.mp ha).1, hf⟩

/-- A step after which the pool itself has no more to say. -/
theorem Told.keep (h : Told labels s) {es : List Event} (hjournal : s'.journal = s.journal ++ es)
    (hcancelled : s'.cancelled = s.cancelled) (hlog : logged es = l.log) :
    Told (labels ++ [l]) s' := by
  obtain ⟨own, hperm, hn⟩ := h
  refine ⟨own, ?_, ?_⟩
  · rw [hjournal, logged_append, hlog, List.flatMap_append, List.flatMap_singleton,
      List.append_assoc]
    refine (hperm.append_right _).trans ?_
    rw [List.append_assoc]
    exact List.perm_append_comm.append_left _
  · rw [hjournal, hcancelled, fallen_append]
    exact hn.mono

theorem Told.action (h : Told labels s) (hl : Ledger hosts s) (ha : Action policy hosts s l s') :
    Told (labels ++ [l]) s' := by
  cases ha with
  | pull hw hn => exact h.keep (List.append_nil _).symm rfl rfl
  | leave hw hn => exact h.keep (List.append_nil _).symm rfl rfl
  | record hw hc => exact h.keep (List.append_nil _).symm rfl rfl
  | refuse r hw hc =>
      rw [hl.record_eq_ok hw] at hc
      cases hc
  | advance hw ha =>
      cases ha with
      | clear => exact h.keep rfl rfl rfl
      | skip => exact h.keep rfl rfl rfl
      | start => exact h.keep rfl rfl rfl
      | announce => exact h.keep rfl rfl rfl
      | fail e => exact h.keep rfl rfl (logged_executed _ _)
      | settle e => exact h.keep rfl rfl (logged_executed _ _)
      | refire hc => exact h.keep rfl hc.symm rfl
      | fire hc o =>
          rename_i w i
          obtain ⟨own, hperm, hn⟩ := h
          rw [hc] at hn
          cases hn
          refine ⟨[fireRecord (hostAt hosts i)], ?_, .one ?_⟩
          · have hone : logged [fireNotice (hostAt hosts i)] = [fireRecord (hostAt hosts i)] := rfl
            simpa [State.note, State.put, Label.log, hone] using hperm.append_right [fireRecord _]
          · simpa [State.note, State.put] using Or.inl (hl.mem_fallen hw)

theorem Told.of_steps (h : steps policy hosts (State.initial policy hosts) labels = some s) :
    Told labels s := by
  have hstart : Ledger hosts (State.initial policy hosts) ∧ Told [] (State.initial policy hosts) :=
    ⟨.initial policy hosts, [], .nil, .none⟩
  exact (run_induction (P := fun ls s => Ledger hosts s ∧ Told ls s)
    (fun ht ha => ⟨ht.1.action ha, ht.2.action ht.1 ha⟩) h hstart).2

end Told

end Fanout.Dispatch
