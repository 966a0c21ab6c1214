import PageSync.Proofs.Log.Levels

/-!
# Proofs/Log/Requests — loggers along calls

In any order of requests and records, a logger is what the first request for it made of it
(`firstRequest`): one handler, its own level, and nothing passed on.  `Tracks` says so of a registry
and the calls it has seen, together with the tree and with what is known of levels; each call keeps
it (`Tracks.get`, `Tracks.log`), so every run has it (`tracks_run`).  From it,
`configured_once_and_written_once` reads off what the next request answers and where the next record
goes.  What the latter needs is a name that keeps its way up: `late_parent_is_overlooked`.
-/

namespace PageSync.Log

/-! ## Calls -/

/-- A call: a request for a logger, or a record. -/
inductive Call where
  | get (name : String) (level : Threshold) (stream : Option String)
  | log (record : Record) (time : String)

namespace Call

/-- The name of the logger that is asked for. -/
def name : Call → String
  | .get name _ _ => name
  | .log record _ => record.logger

/-- What a call asks a name to be configured with: a request with a level that is known does. -/
def request? (wanted : String) : Call → Option (Int × Sink)
  | .get name level stream =>
    if name = wanted then level.resolve.toOption.map (·, .ofStream? stream) else none
  | .log _ _ => none

theorem request?_get (name wanted : String) (level : Threshold) (stream : Option String) :
    (Call.get name level stream).request? wanted =
      if name = wanted then level.resolve.toOption.map (·, .ofStream? stream) else none :=
  rfl

end Call

/-- **The first request** for a name with a level that is known. -/
def firstRequest (calls : List Call) (name : String) : Option (Int × Sink) :=
  calls.findSome? (·.request? name)

/-- The logger that a request makes: it has one handler and passes nothing on. -/
def Logger.requested : Option (Int × Sink) → Logger
  | some (level, sink) => ⟨level, [sink], false⟩
  | none => .blank

theorem firstRequest_append (calls : List Call) (call : Call) (name : String) :
    firstRequest (calls ++ [call]) name = (firstRequest calls name).or (call.request? name) := by
  simp [firstRequest, List.findSome?_append]

theorem request?_eq_some_name {call : Call} {name : String} {request : Int × Sink}
    (h : call.request? name = some request) : call.name = name := by
  cases call with
  | get n level stream =>
    rw [Call.request?] at h
    split at h
    · assumption
    · cases h
  | log record time => cases h

theorem mem_names_of_firstRequest {calls : List Call} {name : String} {request : Int × Sink}
    (h : firstRequest calls name = some request) : name ∈ calls.map Call.name := by
  obtain ⟨call, hcall, hrequest⟩ := List.exists_of_findSome?_eq_some h
  exact List.mem_map.mpr ⟨call, hcall, request?_eq_some_name hrequest⟩

namespace Registry

/-- The registry after a call. -/
def after (r : Registry) : Call → Registry
  | .get name level stream => (r.get name level stream).2
  | .log record time => (r.log record time).2

/-- **The registry after some calls.** -/
def run (calls : List Call) : Registry :=
  calls.foldl after empty

theorem run_append (calls : List Call) (call : Call) :
    run (calls ++ [call]) = (run calls).after call := by
  simp [run]

/-! ## What a step touches -/

section Frame

variable (r : Registry) (name : String)

@[simp] theorem configured_made : (r.made name).configured = r.configured := by
  unfold made
  split <;> rfl

@[simp] theorem settings_made : (r.made name).settings = r.settings := by
  unfold made
  split <;> rfl

@[simp] theorem verdicts_made : (r.made name).verdicts = r.verdicts := by
  unfold made
  split <;> rfl

@[simp] theorem logger_made (n : String) : (r.made name).logger n = r.logger n := by
  rw [logger, logger, settings_made]

@[simp] theorem firstLevel_made (names : List String) :
    (r.made name).firstLevel names = r.firstLevel names := by
  simp only [firstLevel, logger_made]

theorem logger_configure (level : Int) (sink : Sink) (n : String) :
    (r.configure name level sink).logger n =
      if canonical n = canonical name then ⟨level, (r.logger name).sinks ++ [sink], false⟩
      else r.logger n := by
  by_cases h : canonical n = canonical name
  · simp [configure, logger, h]
  · have hbeq : (canonical n == canonical name) = false := beq_false_of_ne h
    simp [configure, logger, h, List.lookup_cons, hbeq]

variable {r name}

theorem get_of_configured {level : Threshold} {stream : Option String} (h : name ∈ r.configured) :
    r.get name level stream = (.ok (canonical name), r.made name) := by
  simp [get, h]

theorem get_of_known {level : Threshold} {stream : Option String} {n : Int}
    (h : name ∉ r.configured) (hlevel : level.resolve = .ok n) :
    r.get name level stream =
      (.ok (canonical name), (r.made name).configure name n (.ofStream? stream)) := by
  simp [get, h, hlevel]

theorem get_of_unknown {level : Threshold} {stream : Option String} {e : UnknownLevel}
    (h : name ∉ r.configured) (hlevel : level.resolve = .error e) :
    r.get name level stream = (.error e, r.made name) := by
  simp [get, h, hlevel]

theorem log_eq (record : Record) (time : String) :
    r.log record time =
      let (written, r) := (r.made record.logger).judge record.logger record.level
      (if written then (r.sinksOf (r.lineage record.logger)).map (·, record.line time) else [],
        r) :=
  rfl

/-- A logger that passes nothing on is the only one whose handler gets its records. -/
theorem sinksOf_lineage {level : Int} {sink : Sink} (h : r.logger name = ⟨level, [sink], false⟩) :
    r.sinksOf (r.lineage name) = [sink] := by
  rw [lineage]
  split
  · simp [sinksOf, h]
  · split
    case isTrue heq => simp [sinksOf, ← heq, h]
    case isFalse => simp [sinksOf, h]

end Frame

/-! ## The registry along calls -/

/-- **A registry that has seen some calls**: its tree is what their names make it, each logger is
what the first request for it makes it, and what is known of levels is so. -/
structure Tracks (calls : List Call) (r : Registry) : Prop where
  named : ∀ name ∈ calls.map Call.name, canonical name ≠ rootName
  grown : Grown (calls.map Call.name) r
  configured : ∀ name, name ∈ r.configured ↔ (firstRequest calls name).isSome
  logger : ∀ name, canonical name ≠ rootName →
    r.logger name = .requested (firstRequest calls name)
  root : r.logger rootName = .root
  known : ∀ name level known, r.verdicts.lookup (name, level) = some known →
    Orderly (calls.map Call.name) name →
    known = (0 < level && r.firstLevel (name :: (above name ++ [rootName])) ≤ level)

variable {calls : List Call} {r : Registry}

theorem tracks_empty : Tracks [] empty where
  named name h := absurd h List.not_mem_nil
  grown := grown_empty
  configured name := by simp [empty, firstRequest]
  logger name h := by simp [Registry.logger, empty, firstRequest, h, Logger.requested]
  root := rfl
  known name level known h := by simp [empty] at h

theorem Tracks.settled (h : Tracks calls r) : r.Settled where
  root := h.root
  blank n hn hunmade := by
    have hnone : firstRequest calls n = none := by
      refine Option.eq_none_iff_forall_ne_some.mpr fun request hrequest => ?_
      have hmade := (h.grown.isMade_iff n).mpr (mem_names_of_firstRequest hrequest)
      simp [hmade] at hunmade
    rw [h.logger n hn, hnone]
    rfl

/-- A logger that has been made writes what the level that counts by its dots lets through. -/
theorem Tracks.admits (h : Tracks calls r) {name : String} (hname : name ∈ calls.map Call.name)
    (horderly : Orderly (calls.map Call.name) name) (level : Int) :
    r.admits name level =
      (0 < level && r.firstLevel (name :: (above name ++ [rootName])) ≤ level) := by
  rw [Registry.admits, effectiveLevel, firstLevel_lineage h.grown h.settled h.named hname horderly]

/-- What is known of a level is what would be found out. -/
theorem Tracks.judge_fst (h : Tracks calls r) {name : String}
    (hname : name ∈ calls.map Call.name) (horderly : Orderly (calls.map Call.name) name)
    (level : Int) :
    (r.judge name level).1 =
      (0 < level && r.firstLevel (name :: (above name ++ [rootName])) ≤ level) := by
  unfold Registry.judge
  split
  case h_1 known hknown => exact h.known name level known hknown horderly
  case h_2 => exact h.admits hname horderly level

theorem Tracks.named_append (h : Tracks calls r) {call : Call}
    (hroot : canonical call.name ≠ rootName) :
    ∀ name ∈ (calls ++ [call]).map Call.name, canonical name ≠ rootName := by
  rw [List.map_append, List.map_singleton]
  intro name hname
  rcases List.mem_append.mp hname with hname | hname
  · exact h.named name hname
  · exact List.mem_singleton.mp hname ▸ hroot

/-- A call that configures nothing, as far as the logger is made for it. -/
theorem Tracks.made (h : Tracks calls r) {call : Call} (hroot : canonical call.name ≠ rootName)
    (hsame : ∀ n, firstRequest (calls ++ [call]) n = firstRequest calls n) :
    Tracks (calls ++ [call]) (r.made call.name) where
  named := h.named_append hroot
  grown := by
    rw [List.map_append, List.map_singleton]
    exact h.grown.made hroot
  configured n := by
    rw [configured_made, hsame]
    exact h.configured n
  logger n hn := by
    rw [logger_made, hsame]
    exact h.logger n hn
  root := by
    rw [logger_made]
    exact h.root
  known n level known hknown horderly := by
    rw [verdicts_made] at hknown
    rw [firstLevel_made]
    rw [List.map_append, List.map_singleton] at horderly
    exact h.known n level known hknown horderly.earlier

/-- A request that configures a logger. -/
theorem Tracks.configure (h : Tracks calls r) {name : String} {level : Threshold}
    {stream : Option String} {n : Int} (hroot : canonical name ≠ rootName)
    (hnew : name ∉ r.configured) (hlevel : level.resolve = .ok n) :
    Tracks (calls ++ [.get name level stream])
      ((r.made name).configure name n (.ofStream? stream)) := by
  have hnone : firstRequest calls name = none := by simpa [h.configured] using hnew
  have hself : firstRequest (calls ++ [.get name level stream]) name
      = some (n, .ofStream? stream) := by
    rw [firstRequest_append, hnone, Option.none_or, Call.request?_get, if_pos rfl, hlevel]
    rfl
  have hothers (x : String) (hx : x ≠ name) :
      firstRequest (calls ++ [.get name level stream]) x = firstRequest calls x := by
    rw [firstRequest_append, Call.request?_get, if_neg hx.symm, Option.or_none]
  refine ⟨h.named_append hroot, ?_, fun x => ?_, fun x hx => ?_, ?_, fun x level known hknown => ?_⟩
  · rw [List.map_append, List.map_singleton]
    exact (h.grown.made hroot).congr rfl
  · have hconfigured : x ∈ ((r.made name).configure name n (.ofStream? stream)).configured ↔
        x = name ∨ x ∈ r.configured := by simp [Registry.configure]
    rw [hconfigured, h.configured]
    by_cases hxname : x = name
    · simp [hxname, hself]
    · simp [hxname, hothers]
  · rw [logger_configure, if_congr (canonical_eq_iff hroot) rfl rfl]
    by_cases hxname : x = name
    · subst hxname
      rw [if_pos rfl, hself, logger_made, h.logger x hx, hnone]
      rfl
    · rw [if_neg hxname, hothers x hxname, logger_made, h.logger x hx]
  · have hne : canonical rootName ≠ canonical name := fun heq => hroot heq.symm
    rw [logger_configure, if_neg hne, logger_made, h.root]
  · simp [Registry.configure] at hknown

/-- **A request keeps the registry as it should be.** -/
theorem Tracks.get (h : Tracks calls r) {name : String} {level : Threshold} {stream : Option String}
    (hroot : canonical name ≠ rootName) :
    Tracks (calls ++ [.get name level stream]) (r.get name level stream).2 := by
  by_cases hconfigured : name ∈ r.configured
  · rw [get_of_configured hconfigured]
    refine h.made hroot fun n => ?_
    rw [firstRequest_append]
    by_cases hn : name = n
    · obtain ⟨request, hrequest⟩ := Option.isSome_iff_exists.mp ((h.configured name).mp hconfigured)
      rw [← hn, hrequest, Option.some_or]
    · simp [Call.request?, hn]
  · cases hlevel : level.resolve with
    | ok n =>
      rw [get_of_known hconfigured hlevel]
      exact h.configure hroot hconfigured hlevel
    | error e =>
      rw [get_of_unknown hconfigured hlevel]
      refine h.made hroot fun n => ?_
      simp [firstRequest_append, Call.request?, hlevel, Except.toOption]

/-- Finding out whether a logger writes records of a level. -/
theorem Tracks.judge (h : Tracks calls r) {name : String} (hname : name ∈ calls.map Call.name)
    (level : Int) :
    Tracks calls (r.judge name level).2 := by
  unfold Registry.judge
  split
  · exact h
  · refine ⟨h.named, h.grown.congr rfl, h.configured, h.logger, h.root, ?_⟩
    intro n l known hknown horderly
    by_cases hkey : (n, l) = (name, level)
    · obtain ⟨rfl, rfl⟩ := Prod.mk.inj hkey
      rw [List.lookup_cons_self, Option.some_inj] at hknown
      exact hknown ▸ h.admits hname horderly l
    · have hbeq : ((n, l) == (name, level)) = false := beq_false_of_ne hkey
      rw [List.lookup_cons, hbeq] at hknown
      exact h.known n l known hknown horderly

/-- **A record keeps the registry as it should be.** -/
theorem Tracks.log (h : Tracks calls r) {record : Record} {time : String}
    (hroot : canonical record.logger ≠ rootName) :
    Tracks (calls ++ [.log record time]) (r.log record time).2 := by
  have hmade : Tracks (calls ++ [.log record time]) (r.made record.logger) := by
    refine h.made hroot fun n => ?_
    rw [firstRequest_append]
    exact Option.or_none
  rw [log_eq]
  exact hmade.judge (by simp [Call.name]) _

theorem tracks_run (hnames : ∀ c ∈ calls, canonical c.name ≠ rootName) :
    Tracks calls (run calls) := by
  induction calls using List.reverseRecOn with
  | nil => exact tracks_empty
  | append_singleton calls call ih =>
    have hbefore : ∀ c ∈ calls, canonical c.name ≠ rootName := fun c hc =>
      hnames c (List.mem_append_left _ hc)
    have hcall : canonical call.name ≠ rootName := hnames call (by simp)
    rw [run_append]
    cases call with
    | get name level stream => exact (ih hbefore).get hcall
    | log record time => exact (ih hbefore).log hcall

/-! ## What the calls so far decide -/

/-- A logger that has been configured is asked for again. -/
theorem Tracks.get_again (h : Tracks calls r) {name : String} {request : Int × Sink}
    (hrequest : firstRequest calls name = some request) (level : Threshold)
    (stream : Option String) : r.get name level stream = (.ok name, r) := by
  have hname := mem_names_of_firstRequest hrequest
  have hconfigured : name ∈ r.configured := (h.configured name).mpr (by simp [hrequest])
  have hmade : r.isMade name := (h.grown.isMade_iff name).mpr hname
  rw [get_of_configured hconfigured, canonical_of_ne (h.named name hname), made_of_isMade hmade]

/-- A record of a logger that has been configured is written once, where the first request said, or
not at all. -/
theorem Tracks.lines (h : Tracks calls r) {record : Record} {n : Int} {sink : Sink}
    (hrequest : firstRequest calls record.logger = some (n, sink)) (time : String) :
    (r.log record time).1 =
      if (r.judge record.logger record.level).1 then [(sink, record.line time)] else [] := by
  have hname := mem_names_of_firstRequest hrequest
  have hmade : r.made record.logger = r := made_of_isMade ((h.grown.isMade_iff _).mpr hname)
  have hjudged := h.judge hname record.level
  have hlogger : (r.judge record.logger record.level).2.logger record.logger
      = ⟨n, [sink], false⟩ := by
    rw [hjudged.logger _ (h.named _ hname), hrequest]
    rfl
  rw [log_eq, hmade]
  simp [sinksOf_lineage hlogger]

/-- **A logger is configured once, and its records are written once.**  The first request for a name
with a level that is known gives its logger this level, one handler and no way to pass records on;
no later one changes anything or is refused.  A request with an unknown level is refused and changes
no logger.  A record of a configured logger goes to the handler of the first request or nowhere: it
is written exactly if its level reaches the one that counts, where the name keeps its way up. -/
theorem configured_once_and_written_once (calls : List Call)
    (hnames : ∀ c ∈ calls, c.name ≠ "" ∧ c.name ≠ rootName) :
    ((run calls).logger rootName = .root ∧ ∀ name, name ≠ "" → name ≠ rootName →
      (run calls).logger name = .requested (firstRequest calls name)) ∧
    (∀ name n sink, firstRequest calls name = some (n, sink) →
      (∀ level stream, (run calls).get name level stream = (.ok name, run calls)) ∧
      ∀ record time, record.logger = name → ∃ written : Bool,
        ((run calls).log record time).1 = (if written then [(sink, record.line time)] else []) ∧
        (0 < record.level → Orderly (calls.map Call.name) name →
          ∃ e, (∀ e', (run calls).Counts name e' ↔ e' = e) ∧ (written ↔ e ≤ record.level))) ∧
    (∀ name level stream, name ≠ "" → name ≠ rootName → firstRequest calls name = none →
      (∀ n, level.resolve = .ok n → ∃ r, (run calls).get name level stream = (.ok name, r) ∧
        r.configured = name :: (run calls).configured ∧
        r.logger name = ⟨n, [.ofStream? stream], false⟩ ∧
        ∀ other, other ≠ name → r.logger other = (run calls).logger other) ∧
      (∀ e, level.resolve = .error e → ∃ r, (run calls).get name level stream = (.error e, r) ∧
        r.configured = (run calls).configured ∧
        ∀ other, r.logger other = (run calls).logger other)) := by
  have h : Tracks calls (run calls) :=
    tracks_run fun c hc => canonical_ne_iff.mpr (hnames c hc)
  refine ⟨⟨h.root, fun name hne hroot => h.logger name (canonical_ne_iff.mpr ⟨hne, hroot⟩)⟩,
    fun name n sink hrequest => ?_,
    fun name level stream hne hroot hnone => ⟨fun n hlevel => ?_, fun e hlevel => ?_⟩⟩
  · refine ⟨h.get_again hrequest, ?_⟩
    rintro record time rfl
    refine ⟨_, h.lines hrequest time, fun hlevel horderly => ?_⟩
    have hcounts := counts_firstLevel horderly.dots h.root
    refine ⟨_, fun e' => ⟨fun h' => h'.unique hcounts, fun heq => heq ▸ hcounts⟩, ?_⟩
    rw [h.judge_fst (mem_names_of_firstRequest hrequest) horderly]
    simp [hlevel]
  · have hnew : name ∉ (run calls).configured := by simp [h.configured, hnone]
    have hname := canonical_ne_iff.mpr ⟨hne, hroot⟩
    rw [get_of_known hnew hlevel, canonical_of_ne hname]
    refine ⟨_, rfl, by simp [Registry.configure], ?_, fun other hother => ?_⟩
    · rw [logger_configure, if_pos rfl, logger_made, h.logger name hname, hnone]
      rfl
    · rw [logger_configure, if_neg (hother ∘ (canonical_eq_iff hname).mp), logger_made]
  · have hnew : name ∉ (run calls).configured := by simp [h.configured, hnone]
    exact ⟨_, get_of_unknown hnew hlevel, configured_made _ _, fun other => logger_made _ _ other⟩

/-- A request that is refused changes nothing for the next one, and a level that is given to the
logger above later counts from then on. -/
theorem configured_once_and_written_once_shown :
    let calls : List Call := [.get "a.b" (.named "chatty") none, .get "a.b" (.level 0) (some "s"),
      .get "a" (.named "error") none, .get "a.b" (.level 50) (some "t")]
    let record : Record := ⟨"a.b", 40, "hi", [], none, none⟩
    (∀ c ∈ calls, c.name ≠ "" ∧ c.name ≠ rootName) ∧
      firstRequest calls "a.b" = some (0, .stream "s") ∧
      Orderly (calls.map Call.name) "a.b" ∧ (run calls).Counts "a.b" 40 ∧
      ((run calls).log record "now").1 = [(.stream "s", record.line "now")] := by
  intro calls record
  have hnames : ∀ c ∈ calls, c.name ≠ "" ∧ c.name ≠ rootName := by decide +kernel
  have hrequest : firstRequest calls "a.b" = some (0, .stream "s") := by decide +kernel
  have horderly : Orderly (calls.map Call.name) "a.b" := by decide +kernel
  have hlevel : (run calls).firstLevel ("a.b" :: (above "a.b" ++ [rootName])) = 40 := by
    decide +kernel
  have hcounts : (run calls).Counts "a.b" 40 :=
    hlevel ▸ counts_firstLevel horderly.dots (by decide +kernel)
  obtain ⟨-, hconfigured, -⟩ := configured_once_and_written_once calls hnames
  obtain ⟨written, hlines, hwritten⟩ := (hconfigured _ _ _ hrequest).2 record "now" rfl
  obtain ⟨e, he, hreaches⟩ := hwritten (by decide) horderly
  obtain rfl : 40 = e := (he 40).mp hcounts
  rw [hreaches.mpr (by decide)] at hlines
  exact ⟨hnames, hrequest, horderly, hcounts, hlines⟩

/-- **A logger above that is asked for too late is overlooked.**  The level of `r` is what counts
for `r.x`, and the record reaches it.  But `root` begins with `r`, so `r` does not take `r.x` over
from the root, and the record is not written. -/
theorem late_parent_is_overlooked :
    let calls : List Call := [.get "r.x" (.level 0) (some "s"), .get "r" (.level 10) (some "t")]
    firstRequest calls "r.x" = some (0, .stream "s") ∧ (run calls).Counts "r.x" 10 ∧
      ((run calls).log ⟨"r.x", 20, "hi", [], none, none⟩ "now").1 = [] := by
  intro calls
  have hlevel : (run calls).firstLevel ("r.x" :: (above "r.x" ++ [rootName])) = 10 := by
    decide +kernel
  have hcounts : (run calls).Counts "r.x" 10 :=
    hlevel ▸ counts_firstLevel (by decide +kernel) (by decide +kernel)
  exact ⟨by decide +kernel, hcounts, by decide +kernel⟩

end Registry

end PageSync.Log
