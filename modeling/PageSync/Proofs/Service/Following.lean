import PageSync.Proofs.Service.Plan

/-!
# Proofs/Service/Following — operations that follow a plan

An operation over a channel follows a plan when it sends the requests of the plan in order, and ends
with a value exactly when the whole plan was carried out.  Operations in a row follow their plans in
a row (`Follows.trans`, `Follows.stopped`), so the plan of a long operation is put together from
those of its parts.
-/

namespace PageSync

/-- Whether an outcome, if it is an answer at all, lists objects. -/
def Outcome.ListsObjects (o : Outcome) : Prop :=
  ∀ a, o.value? = some a → ∃ l : ListAnswer, a = l.toJson

/-- Whether an outcome, if it is an answer at all, names a page. -/
def Outcome.NamesPage (o : Outcome) : Prop :=
  ∀ a, o.value? = some a → ∃ fields id, a = .obj fields ∧ fields.lookup "id" = some id

/-- **Well-formed traffic**: what was asked for a list, or has appended blocks, answers with a list
of objects, and what has created a page names it. -/
def Traffic.WellFormed (t : Traffic) : Prop :=
  ∀ p ∈ t, (p.1.wantsList = true → p.2.ListsObjects) ∧ (p.1.method = "POST" → p.2.NamesPage)

theorem Traffic.WellFormed.of_append {t t' : Traffic} (h : WellFormed (t ++ t')) :
    WellFormed t ∧ WellFormed t' :=
  ⟨fun p hp => h p (List.mem_append_left _ hp), fun p hp => h p (List.mem_append_right _ hp)⟩

namespace Blocking.Channel

variable {σ α β : Type} {ch : Channel σ} {w w' : World σ}

/-- **An operation follows a plan** with some traffic, and ends with a value exactly when nothing
stopped it.  Answers that cannot be used were not well-formed. -/
structure Follows (ch : Channel σ) (w : World σ) (r : Except Fault α × World σ) (steps : List Step)
    (t : Traffic) (stop : Option Stop) : Prop where
  exchanged : ch.Exchanged w t r.2
  carried : Carried ch.connection steps t stop
  isOk : r.1.isOk = stop.isNone
  notWellFormed : ∀ e, stop = some (.unreadable e) → ¬ t.WellFormed

namespace Follows

variable {steps steps' : List Step} {t t' : Traffic} {stop : Option Stop}

/-- A value without a request. -/
theorem of_ok (x : α) (w : World σ) : ch.Follows w (.ok x, w) [] [] none :=
  ⟨Exchanged.refl w, .done, rfl, nofun⟩

/-- An operation that ends with a value was not stopped. -/
theorem stop_eq_none {r : Except Fault α × World σ} {x : α} (h : ch.Follows w r steps t stop)
    (hr : r.1 = .ok x) : stop = none := by
  have hisOk := h.isOk
  rw [hr] at hisOk
  exact Option.isNone_iff_eq_none.mp hisOk.symm

/-- An operation that fails was stopped. -/
theorem exists_stop {r : Except Fault α × World σ} {e : Fault} (h : ch.Follows w r steps t stop)
    (hr : r.1 = .error e) : ∃ s, stop = some s := by
  have hisOk := h.isOk
  rw [hr] at hisOk
  exact Option.isSome_iff_exists.mp (Option.isNone_eq_false_iff.mp hisOk.symm)

/-- **Why an operation fails**: the last request did not succeed, or the next one cannot be built,
or there was an answer that cannot be used. -/
theorem exists_reason {r : Except Fault α × World σ} {e : Fault} (h : ch.Follows w r steps t stop)
    (hr : r.1 = .error e) :
    (∃ p ∈ t.getLast?, p.2.succeeded = false) ∨
    (∃ s ∈ steps[t.length]?, ∃ e', s.request ch.connection = .error e') ∨ ¬ t.WellFormed := by
  obtain ⟨reason, rfl⟩ := h.exists_stop hr
  cases reason with
  | failed cause =>
    obtain ⟨t', q, o, s, rfl, -, -, ho⟩ := h.carried.exists_failed
    exact .inl ⟨(q, o), by simp, Outcome.not_succeeded_of_error ho⟩
  | refused cause =>
    obtain ⟨s, hs, hq⟩ := h.carried.exists_refused
    exact .inr (.inl ⟨s, hs, cause, hq⟩)
  | unreadable cause => exact .inr (.inr (h.notWellFormed cause rfl))

/-- An operation that ends with a value was sent its whole plan, and every request succeeded. -/
theorem whole {r : Except Fault α × World σ} {x : α} (h : ch.Follows w r steps t stop)
    (hr : r.1 = .ok x) : t.length = steps.length ∧ ∀ p ∈ t, p.2.succeeded = true := by
  obtain rfl := h.stop_eq_none hr
  exact ⟨h.carried.length_eq, h.carried.succeeded nofun⟩

/-- **An operation ends with a value exactly when its whole plan succeeded**, as long as the answers
can be used. -/
theorem exists_ok_iff {r : Except Fault α × World σ} (h : ch.Follows w r steps t stop)
    (hw : t.WellFormed) :
    (∃ x, r.1 = .ok x) ↔ t.length = steps.length ∧ ∀ p ∈ t, p.2.succeeded = true := by
  refine ⟨fun ⟨x, hr⟩ => h.whole hr, fun ⟨hlen, hall⟩ => ?_⟩
  cases hr : r.1 with
  | ok x => exact ⟨x, rfl⟩
  | error e =>
    rcases h.exists_reason hr with ⟨p, hp, hno⟩ | ⟨s, hs, -⟩ | hbad
    · rw [hall p (List.mem_of_getLast? hp)] at hno
      exact absurd hno (by simp)
    · rw [hlen, List.getElem?_eq_none (Nat.le_refl _)] at hs
      exact absurd hs (by simp)
    · exact absurd hw hbad

/-- A value may be made into another. -/
theorem yields {x : α} (h : ch.Follows w (.ok x, w') steps t stop) (y : β) :
    ch.Follows w (.ok y, w') steps t stop :=
  ⟨h.exchanged, h.carried, h.isOk, h.notWellFormed⟩

/-- A fault may be given as another. -/
theorem fails {e : Fault} (h : ch.Follows w ((.error e : Except Fault α), w') steps t stop)
    (e' : Fault) : ch.Follows w ((.error e' : Except Fault β), w') steps t stop :=
  ⟨h.exchanged, h.carried, h.isOk, h.notWellFormed⟩

/-- What is noted afterwards changes no traffic, as long as it is no request. -/
theorem note {r : Except Fault α} {f : Journal → Journal} (h : ch.Follows w (r, w') steps t stop)
    (hf : (f w'.journal).requests = w'.journal.requests) :
    ch.Follows w (r, w'.note f) steps t stop :=
  ⟨h.exchanged.note hf, h.carried, h.isOk, h.notWellFormed⟩

/-- What is noted beforehand changes no traffic either. -/
theorem of_note {r : Except Fault α × World σ} {f : Journal → Journal}
    (h : ch.Follows (w.note f) r steps t stop)
    (hf : (f w.journal).requests = w.journal.requests) : ch.Follows w r steps t stop where
  exchanged := h.exchanged.of_note hf
  carried := h.carried
  isOk := h.isOk
  notWellFormed := h.notWellFormed

/-- **One operation after the other** follows one plan after the other. -/
theorem trans {x : α} {r : Except Fault β × World σ} {stop' : Option Stop}
    (h : ch.Follows w (.ok x, w') steps t stop)
    (h' : ch.Follows w' r steps' t' stop') : ch.Follows w r (steps ++ steps') (t ++ t') stop' where
  exchanged := h.exchanged.trans h'.exchanged
  carried := (h.stop_eq_none rfl ▸ h.carried).append h'.carried
  isOk := h'.isOk
  notWellFormed e he hw := h'.notWellFormed e he hw.of_append.2

/-- What stopped one operation stops what would have come after it, whatever fault it is given
as. -/
theorem stopped {e : Fault} (h : ch.Follows w ((.error e : Except Fault α), w') steps t stop)
    (e' : Fault) (more : List Step) :
    ch.Follows w ((.error e' : Except Fault β), w') (steps ++ more) t stop := by
  obtain ⟨s, rfl⟩ := h.exists_stop rfl
  exact ⟨h.exchanged, h.carried.stopped more, rfl, h.notWellFormed⟩

/-- Answers that turn out not to be usable end an operation. -/
theorem unreadable {x : α} (h : ch.Follows w (.ok x, w') steps t stop) (hw : ¬ t.WellFormed)
    (e : Fault) (more : List Step) :
    ch.Follows w ((.error e : Except Fault β), w') (steps ++ more) t (some (.unreadable e)) where
  exchanged := h.exchanged
  carried := by
    have hc := (h.stop_eq_none rfl ▸ h.carried).append (.unreadable (c := ch.connection) more e)
    rwa [List.append_nil] at hc
  isOk := rfl
  notWellFormed _ _ := hw

end Follows

/-- An operation follows a plan, and its value is as wanted. -/
def Carries (ch : Channel σ) (w : World σ) (r : Except Fault α × World σ) (steps : List Step)
    (Q : α → Prop) : Prop :=
  ∃ t stop, ch.Follows w r steps t stop ∧ ∀ x, r.1 = .ok x → Q x

/-- **One operation after the other.** -/
theorem Carries.bind {a : Action σ α} {f : α → Action σ β} {steps steps' : List Step}
    {P : α → Prop} {Q : β → Prop} (ha : ch.Carries w (a.run w) steps P)
    (hf : ∀ x w', P x → ch.Carries w' ((f x).run w') steps' Q) :
    ch.Carries w ((a >>= f).run w) (steps ++ steps') Q := by
  obtain ⟨t, stop, h, hp⟩ := ha
  cases hr : a.run w with
  | mk result w' =>
    rw [hr] at h hp
    cases result with
    | ok x =>
      obtain ⟨t', stop', h', hq⟩ := hf x w' (hp x rfl)
      rw [Action.run_bind_ok hr]
      exact ⟨t ++ t', stop', h.trans h', hq⟩
    | error e =>
      rw [Action.run_bind_error hr]
      exact ⟨t, stop, h.stopped e steps', nofun⟩

/-- **A call is a step**: it is refused, or it fails, or it is answered.  An outcome that announces
another page brings the network nearer to its horizon. -/
theorem call_cases (ch : Channel σ) (s : Step) (w : World σ) :
    let r := (ch.call s.method s.path s.args).run w
    (∃ e, r = (.error e, w) ∧ ch.Follows w r [s] [] (some (.refused e))) ∨
    (∃ q o e w', o.answer s.call = .error e ∧ r = (.error e, w') ∧
      ch.Follows w r [s] [(q, o)] (some (.failed e))) ∨
    ∃ q o a w', s.request ch.connection = .ok q ∧ o.answer s.call = .ok a ∧ r = (.ok a, w') ∧
      ch.Follows w r [s] [(q, o)] none ∧
      (o.announcesMore = true → ch.network.horizon w'.peer < ch.network.horizon w.peer) := by
  intro r
  cases hq : s.request ch.connection with
  | error e =>
    have hr : r = (.error e, w) := run_call_refused hq
    refine .inl ⟨e, hr, ?_⟩
    rw [hr]
    exact ⟨Exchanged.refl w, .refused hq, rfl, nofun⟩
  | ok q =>
    obtain ⟨o, w', hr, hx, hnear⟩ := run_call_sent hq w
    have hr' : r = (o.answer s.call, w') := hr
    cases ho : o.answer s.call with
    | error e =>
      rw [ho] at hr'
      refine .inr (.inl ⟨q, o, e, w', ho, hr', ?_⟩)
      rw [hr']
      exact ⟨hx, .failed hq ho, rfl, nofun⟩
    | ok a =>
      rw [ho] at hr'
      refine .inr (.inr ⟨q, o, a, w', rfl, ho, hr', ?_, hnear⟩)
      rw [hr']
      exact ⟨hx, .next hq ho .done, rfl, nofun⟩

/-- A call follows its step. -/
theorem carries_call (ch : Channel σ) (s : Step) (w : World σ) :
    ch.Carries w ((ch.call s.method s.path s.args).run w) [s] fun _ => True := by
  rcases ch.call_cases s w with ⟨e, -, h⟩ | ⟨q, o, e, w', -, -, h⟩ | ⟨q, o, a, w', -, -, -, h, -⟩
  all_goals exact ⟨_, _, h, fun _ _ => trivial⟩

end Blocking.Channel

end PageSync
