import PageSync.Blocking.Exchange

/-!
# Proofs/Service/Exchange — what goes over a channel

`Exchanged w t w'` says that between two worlds exactly the requests of `t` were sent, and that the
network answered them as `t` has it.  A call either sends nothing, because its request is refused,
or sends one request and means what the outcome means.
-/

namespace PageSync

/-- Requests, each with what came of it. -/
abbrev Traffic := List (Request × Outcome)

namespace Network

variable {σ : Type}

/-- What comes of requests that are sent one after the other. -/
def replies (n : Network σ) : List Request → σ → List Outcome
  | [], _ => []
  | q :: rest, s => (n.exchange q s).1 :: n.replies rest (n.exchange q s).2

/-- The state of a network after requests. -/
def after (n : Network σ) : List Request → σ → σ
  | [], s => s
  | q :: rest, s => n.after rest (n.exchange q s).2

theorem replies_append (n : Network σ) : ∀ (qs rs : List Request) (s : σ),
    n.replies (qs ++ rs) s = n.replies qs s ++ n.replies rs (n.after qs s)
  | [], _, _ => rfl
  | q :: qs, rs, s => congrArg (_ :: ·) (n.replies_append qs rs (n.exchange q s).2)

theorem after_append (n : Network σ) : ∀ (qs rs : List Request) (s : σ),
    n.after (qs ++ rs) s = n.after rs (n.after qs s)
  | [], _, _ => rfl
  | q :: qs, rs, s => n.after_append qs rs (n.exchange q s).2

end Network

namespace Outcome

/-- **Whether a request succeeded**: its status is a success, and there is nothing to be read or
what there is is JSON. -/
def succeeded : Outcome → Bool
  | .response r => r.isSuccess && (r.status = 204 || r.text = "" || r.value?.isSome)
  | .failure _ _ => false

/-- The answer in an outcome, if it is one. -/
def value? : Outcome → Option Json
  | .response r =>
    if r.isSuccess then if r.isBlank then some (.obj []) else r.value? else none
  | .failure _ _ => none

/-- What an outcome answers does not depend on the call. -/
theorem value?_eq_toOption (o : Outcome) (c : Call) : o.value? = (o.answer c).toOption := by
  cases o with
  | failure kind message =>
    rw [value?, answer]
    cases kind.isNetwork <;> rfl
  | response r =>
    rw [value?, answer, Response.answer]
    cases r.isSuccess <;> cases r.isBlank <;> cases r.value? <;> rfl

theorem value?_of_ok {o : Outcome} {c : Call} {a : Json} (h : o.answer c = .ok a) :
    o.value? = some a := by
  rw [value?_eq_toOption o c, h]
  rfl

theorem value?_of_error {o : Outcome} {c : Call} {e : Fault} (h : o.answer c = .error e) :
    o.value? = none := by
  rw [value?_eq_toOption o c, h]
  rfl

/-- A request succeeded exactly when it was answered. -/
theorem succeeded_eq_isSome (o : Outcome) : o.succeeded = o.value?.isSome := by
  cases o with
  | failure kind message => rfl
  | response r =>
    change (r.isSuccess && (r.isBlank || r.value?.isSome)) = _
    rw [value?]
    cases r.isSuccess <;> cases r.isBlank <;> rfl

theorem succeeded_of_ok {o : Outcome} {c : Call} {a : Json} (h : o.answer c = .ok a) :
    o.succeeded = true := by
  rw [succeeded_eq_isSome, value?_of_ok h, Option.isSome_some]

theorem not_succeeded_of_error {o : Outcome} {c : Call} {e : Fault} (h : o.answer c = .error e) :
    o.succeeded = false := by
  rw [succeeded_eq_isSome, value?_of_error h, Option.isSome_none]

/-- What is noted of an outcome is no request. -/
@[simp] theorem requests_observe (s : Settings) (q : Request) (o : Outcome) (c : Call)
    (j : Journal) : (o.observe s q c j).requests = j.requests := by
  cases o with
  | failure kind message =>
    rw [observe]
    split
    · rw [Journal.requests_log, Journal.requests_measure]
    · rfl
  | response r =>
    rw [observe]
    simp only [logResponse]
    split <;> simp only [Journal.requests_log, Journal.requests_dump, Journal.requests_measure]

end Outcome

namespace Blocking.Channel

/-- A channel on which a script has the outcomes, and an empty object answers where it has none. -/
def scripted : Channel (Network.Script Unit) where
  connection := ⟨⟨.default, rfl⟩, ⟨"https", "", "api.notion.com", none, "/v1/", none, none⟩, rfl⟩
  network := .scripted fun _ s => (.response ⟨200, [], "\x7b\x7d"⟩, s)

variable {σ : Type} {ch : Channel σ} {w w' w'' : World σ}

/-- **Exactly this went over a channel** between two worlds. -/
structure Exchanged (ch : Channel σ) (w : World σ) (t : Traffic) (w' : World σ) : Prop where
  requests : w'.journal.requests = w.journal.requests ++ t.map (·.1)
  outcomes : ch.network.replies (t.map (·.1)) w.peer = t.map (·.2)
  peer : w'.peer = ch.network.after (t.map (·.1)) w.peer

namespace Exchanged

theorem refl (w : World σ) : ch.Exchanged w [] w :=
  ⟨(List.append_nil _).symm, rfl, rfl⟩

theorem trans {t t' : Traffic} (h : ch.Exchanged w t w') (h' : ch.Exchanged w' t' w'') :
    ch.Exchanged w (t ++ t') w'' where
  requests := by rw [h'.requests, h.requests, List.append_assoc, List.map_append]
  outcomes := by
    rw [List.map_append, List.map_append, Network.replies_append, h.outcomes, ← h.peer, h'.outcomes]
  peer := by rw [h'.peer, h.peer, List.map_append, Network.after_append]

/-- A note sends nothing, as long as it is no request. -/
theorem note {t : Traffic} {f : Journal → Journal} (h : ch.Exchanged w t w')
    (hf : (f w'.journal).requests = w'.journal.requests) : ch.Exchanged w t (w'.note f) :=
  ⟨hf.trans h.requests, h.outcomes, h.peer⟩

/-- Nor does a note that is written beforehand. -/
theorem of_note {t : Traffic} {f : Journal → Journal} (h : ch.Exchanged (w.note f) t w')
    (hf : (f w.journal).requests = w.journal.requests) : ch.Exchanged w t w' :=
  ⟨hf ▸ h.requests, h.outcomes, h.peer⟩

end Exchanged

variable {method path : String} {args : Fields}

/-- A call whose request is refused sends nothing. -/
theorem run_call_refused {e : Fault} (h : ch.connection.request method path args = .error e) :
    (ch.call method path args).run w = (.error e, w) := by
  rw [call, h]
  rfl

/-- The world in which a request was sent and its outcome has come. -/
def sent (ch : Channel σ) (q : Request) (w : World σ) : World σ :=
  { w with peer := (ch.network.exchange q w.peer).2, journal := w.journal.send q }

/-- A call whose request is accepted sends it, writes down what is to be observed of the outcome,
and means what the outcome means. -/
theorem run_call_of_request {q : Request} (h : ch.connection.request method path args = .ok q)
    (w : World σ) : (ch.call method path args).run w =
      (((ch.network.exchange q w.peer).1).answer ⟨method, path⟩,
        (ch.sent q w).note
          (((ch.network.exchange q w.peer).1).observe ch.settings q ⟨method, path⟩)) := by
  rw [call, h]
  rfl

/-- Up to what is written down of the outcome, exactly the request went over the channel. -/
theorem exchanged_observed (ch : Channel σ) (q : Request) (c : Call) (w : World σ) :
    ch.Exchanged w [(q, (ch.network.exchange q w.peer).1)]
      ((ch.sent q w).note (((ch.network.exchange q w.peer).1).observe ch.settings q c)) :=
  Exchanged.note ⟨rfl, rfl, rfl⟩ (Outcome.requests_observe _ _ _ _ _)

/-- **A call sends one request**, and means what comes of it.  An outcome that announces another
page brings the network nearer to its horizon. -/
theorem run_call_sent {q : Request} (h : ch.connection.request method path args = .ok q)
    (w : World σ) :
    ∃ o w', (ch.call method path args).run w = (o.answer ⟨method, path⟩, w') ∧
      ch.Exchanged w [(q, o)] w' ∧
      (o.announcesMore = true → ch.network.horizon w'.peer < ch.network.horizon w.peer) :=
  ⟨_, _, run_call_of_request h w, ch.exchanged_observed q _ w, ch.network.nearer q w.peer⟩

end Blocking.Channel

end PageSync
