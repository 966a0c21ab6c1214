import PageSync.Proofs.Service.Exchange
import PageSync.Proofs.Service.ListAnswer
import PageSync.Service.Endpoint
import PageSync.Service.Paging

/-!
# Proofs/Service/Plan — plans of requests, and how far they are carried out

A plan is a list of steps, each of which is one request.  `Carried c steps t stop` says that the
steps were carried out one by one with the traffic `t`, until there was none left or something
stopped them.  Nothing is sent twice, and nothing is sent after a request that did not succeed.
-/

namespace PageSync

/-! ## Steps -/

/-- One request of a plan. -/
inductive Step where
  /-- Ask for the page of children at a cursor. -/
  | list (page : Json) (cursor : Option Json)
  | delete (block : Json)
  | append (parent : Json) (batch : List Json)
  | create (parent properties : Json)
  | update (page properties : Json)

namespace Step

open Endpoint

/-- The method of a step. -/
def method : Step → String
  | .list _ _ => "GET"
  | .delete _ => "DELETE"
  | .append _ _ => "PATCH"
  | .create _ _ => "POST"
  | .update _ _ => "PATCH"

/-- The path of a step. -/
def path : Step → String
  | .list page _ => childrenPath page
  | .delete block => blockPath block
  | .append parent _ => childrenPath parent
  | .create _ _ => pagesPath
  | .update page _ => pagePath page

/-- The arguments of a step. -/
def args : Step → Fields
  | .list _ cursor =>
    [("params", .obj (("page_size", .int 100) :: (cursor.map (Prod.mk "start_cursor")).toList))]
  | .delete _ => []
  | .append _ batch => withBody (appendBody batch)
  | .create parent properties => withBody (createBody parent properties none)
  | .update _ properties => withBody (updateBody properties)

/-- The call that a step is. -/
def call (s : Step) : Call :=
  ⟨s.method, s.path⟩

/-- The request that a step is over a connection. -/
def request (c : Connection) (s : Step) : Except Fault Request :=
  c.request s.method s.path s.args

/-- The blocks that a step appends. -/
def appended? : Step → Option (List Json)
  | .append _ batch => some batch
  | _ => none

/-- Whether a step deletes. -/
def isDelete : Step → Bool
  | .delete _ => true
  | _ => false

/-- Whether a step needs an answer that lists objects. -/
def wantsList : Step → Bool
  | .list _ _ | .append _ _ => true
  | _ => false

end Step

namespace Request

/-- The blocks that a request appends to something. -/
def appended? (q : Request) : Option (List Json) :=
  match q.method, q.body with
  | "PATCH", some (.obj [("children", .arr batch)]) => some batch
  | _, _ => none

/-- Whether a request needs an answer that lists objects: one that lists children, or appends. -/
def wantsList (q : Request) : Bool :=
  q.method = "GET" || q.appended?.isSome

end Request

/-- A request has the method and the body of its call. -/
theorem Connection.of_request_ok {c : Connection} {method path : String} {args : Fields}
    {q : Request} (h : c.request method path args = .ok q) :
    q.method = Text.upper method ∧ q.body = argument? args "json" := by
  rw [request] at h
  cases hu : Url.request? c.base path ((argument? args "params").bind Json.fields?) with
  | none =>
    rw [hu] at h
    exact absurd h (by simp [throw, throwThe, MonadExceptOf.throw])
  | some url =>
    rw [hu] at h
    simp only at h
    split at h
    · obtain rfl := Except.ok.inj h
      exact ⟨rfl, rfl⟩
    · exact absurd h (by simp [throw, throwThe, MonadExceptOf.throw])

namespace Step

/-- Methods are written in capitals. -/
theorem upper_method : ∀ s : Step, Text.upper s.method = s.method
  | .list _ _ => (by decide +kernel : Text.upper "GET" = "GET")
  | .delete _ => (by decide +kernel : Text.upper "DELETE" = "DELETE")
  | .append _ _ | .update _ _ => (by decide +kernel : Text.upper "PATCH" = "PATCH")
  | .create _ _ => (by decide +kernel : Text.upper "POST" = "POST")

variable {c : Connection} {s : Step} {q : Request}

theorem method_of_request (h : s.request c = .ok q) : q.method = s.method :=
  (Connection.of_request_ok h).1.trans s.upper_method

/-- The request of a step shows what the step appends. -/
theorem appended?_of_request (h : s.request c = .ok q) : q.appended? = s.appended? := by
  rw [Request.appended?, method_of_request h, (Connection.of_request_ok h).2]
  cases s <;> rfl

/-- The request of a step shows whether the step deletes. -/
theorem isDelete_of_request (h : s.request c = .ok q) :
    decide (q.method = "DELETE") = s.isDelete := by
  rw [method_of_request h]
  cases s <;> rfl

/-- The request of a step shows whether the step needs an answer that lists objects. -/
theorem wantsList_of_request (h : s.request c = .ok q) : q.wantsList = s.wantsList := by
  rw [Request.wantsList, appended?_of_request h, method_of_request h]
  cases s <;> rfl

end Step

/-! ## How far a plan was carried out -/

/-- Why a plan was not carried on. -/
inductive Stop where
  /-- The next request cannot be sent. -/
  | refused (fault : Fault)
  /-- The last request did not succeed. -/
  | failed (fault : Fault)
  /-- The answers that came cannot be used. -/
  | unreadable (fault : Fault)

/-- **Steps were carried out** one by one, until none was left or something stopped them. -/
inductive Carried (c : Connection) : List Step → Traffic → Option Stop → Prop
  | done : Carried c [] [] none
  | unreadable (steps : List Step) (e : Fault) : Carried c steps [] (some (.unreadable e))
  | refused {s : Step} {rest : List Step} {e : Fault} (hq : s.request c = .error e) :
    Carried c (s :: rest) [] (some (.refused e))
  | failed {s : Step} {rest : List Step} {q : Request} {o : Outcome} {e : Fault}
    (hq : s.request c = .ok q) (ho : o.answer s.call = .error e) :
    Carried c (s :: rest) [(q, o)] (some (.failed e))
  | next {s : Step} {rest : List Step} {q : Request} {o : Outcome} {a : Json} {t : Traffic}
    {stop : Option Stop} (hq : s.request c = .ok q) (ho : o.answer s.call = .ok a)
    (h : Carried c rest t stop) : Carried c (s :: rest) ((q, o) :: t) stop

namespace Carried

variable {c : Connection}

/-- Plans that are carried out one after the other are carried out as one. -/
theorem append : ∀ {steps steps' : List Step} {t t' : Traffic} {stop : Option Stop},
    Carried c steps t none → Carried c steps' t' stop → Carried c (steps ++ steps') (t ++ t') stop
  | _, _, _, _, _, .done, h' => h'
  | _, _, _, _, _, .next hq ho h, h' => .next hq ho (h.append h')

/-- What stopped a plan stops any longer plan. -/
theorem stopped (more : List Step) : ∀ {steps : List Step} {t : Traffic} {s : Stop},
    Carried c steps t (some s) → Carried c (steps ++ more) t (some s)
  | _, _, _, .unreadable _ e => .unreadable _ e
  | _, _, _, .refused hq => .refused hq
  | _, _, _, .failed hq ho => .failed hq ho
  | _, _, _, .next hq ho h => .next hq ho (h.stopped more)

/-- **What was sent is the beginning of the plan.** -/
theorem requests : ∀ {steps : List Step} {t : Traffic} {stop : Option Stop},
    Carried c steps t stop →
    t.length ≤ steps.length ∧ (steps.take t.length).map (·.request c) = t.map fun p => .ok p.1
  | _, _, _, .done => ⟨Nat.le_refl _, rfl⟩
  | _, _, _, .unreadable _ _ => ⟨Nat.zero_le _, rfl⟩
  | _, _, _, .refused _ => ⟨Nat.zero_le _, rfl⟩
  | _, _, _, .failed hq _ => ⟨Nat.succ_le_succ (Nat.zero_le _), congrArg (· :: []) hq⟩
  | _, _, _, .next hq _ h => by
      refine ⟨Nat.succ_le_succ h.requests.1, ?_⟩
      rw [List.length_cons, List.take_succ_cons, List.map_cons, List.map_cons, hq, h.requests.2]

/-- What can be told of steps by their requests is told by the traffic. -/
theorem map_eq {β : Type} {f : Request → β} {g : Step → β}
    (hfg : ∀ (s : Step) (q : Request), s.request c = .ok q → f q = g s) :
    ∀ {steps : List Step} {t : Traffic} {stop : Option Stop}, Carried c steps t stop →
      t.map (fun p => f p.1) = (steps.take t.length).map g
  | _, _, _, .done => rfl
  | _, _, _, .unreadable _ _ => rfl
  | _, _, _, .refused _ => rfl
  | _, _, _, .failed hq _ => congrArg (· :: []) (hfg _ _ hq)
  | _, _, _, .next hq _ h => by
      rw [List.map_cons, List.length_cons, List.take_succ_cons, List.map_cons, hfg _ _ hq,
        h.map_eq hfg]

/-- What was sent is a step of the plan. -/
theorem exists_step {steps : List Step} {t : Traffic} {stop : Option Stop}
    (h : Carried c steps t stop) : ∀ p ∈ t, ∃ s ∈ steps, s.request c = .ok p.1 := by
  intro p hp
  have hm : (.ok p.1 : Except Fault Request) ∈ (steps.take t.length).map (·.request c) := by
    rw [h.requests.2]
    exact List.mem_map.mpr ⟨p, hp, rfl⟩
  obtain ⟨s, hs, hq⟩ := List.mem_map.mp hm
  exact ⟨s, List.mem_of_mem_take hs, hq⟩

/-- **Every request but the last one succeeded.** -/
theorem succeeded_dropLast : ∀ {steps : List Step} {t : Traffic} {stop : Option Stop},
    Carried c steps t stop → ∀ p ∈ t.dropLast, p.2.succeeded = true
  | _, [], _, _, p, hp => absurd hp List.not_mem_nil
  | _, [_], _, _, p, hp => absurd hp List.not_mem_nil
  | _, _ :: _ :: _, _, .next _ ho h, p, hp => by
      rcases List.mem_cons.mp hp with rfl | hp
      · exact Outcome.succeeded_of_ok ho
      · exact h.succeeded_dropLast p hp

/-- Where no request failed, all that were sent succeeded. -/
theorem succeeded : ∀ {steps : List Step} {t : Traffic} {stop : Option Stop},
    Carried c steps t stop → (∀ e, stop ≠ some (.failed e)) → ∀ p ∈ t, p.2.succeeded = true
  | _, _, _, .done, _, p, hp => absurd hp List.not_mem_nil
  | _, _, _, .unreadable _ _, _, p, hp => absurd hp List.not_mem_nil
  | _, _, _, .refused _, _, p, hp => absurd hp List.not_mem_nil
  | _, _, _, .failed _ _, hstop, _, _ => absurd rfl (hstop _)
  | _, _, _, .next _ ho h, hstop, p, hp => by
      rcases List.mem_cons.mp hp with rfl | hp
      · exact Outcome.succeeded_of_ok ho
      · exact h.succeeded hstop p hp

/-- A plan that nothing stopped was sent as a whole. -/
theorem length_eq : ∀ {steps : List Step} {t : Traffic}, Carried c steps t none →
    t.length = steps.length
  | _, _, .done => rfl
  | _, _, .next _ _ h => congrArg (· + 1) h.length_eq

/-- **A failed request is the last one**, and its outcome says why. -/
theorem exists_failed : ∀ {steps : List Step} {t : Traffic} {e : Fault},
    Carried c steps t (some (.failed e)) →
    ∃ t' q o s, t = t' ++ [(q, o)] ∧ steps[t'.length]? = some s ∧ s.request c = .ok q ∧
      o.answer s.call = .error e
  | _, _, _, .failed hq ho => ⟨[], _, _, _, rfl, rfl, hq, ho⟩
  | _, _, _, .next _ _ h => by
      obtain ⟨t', q, o, s, rfl, hs, hq, ho⟩ := h.exists_failed
      exact ⟨_ :: t', q, o, s, rfl, hs, hq, ho⟩

/-- A refused request is the one after the last that was sent. -/
theorem exists_refused : ∀ {steps : List Step} {t : Traffic} {e : Fault},
    Carried c steps t (some (.refused e)) →
    ∃ s, steps[t.length]? = some s ∧ s.request c = .error e
  | _, _, _, .refused hq => ⟨_, rfl, hq⟩
  | _, _, _, .next _ _ h => h.exists_refused

end Carried

end PageSync
