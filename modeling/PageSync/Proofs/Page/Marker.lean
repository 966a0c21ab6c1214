import PageSync.Proofs.Page.RequestTrace

/-!
# Proofs/Page/Marker — when the time of the source is written

A page looks up to date when its marker has the time of the source.  A replacement sends the marker
after everything else has succeeded, so one that fails leaves none (`marks_replacePageFrom`).  A
creation sends it with the page, before any content, so one that fails later leaves a page that
looks up to date and is not (`marks_createPageFrom`).
-/

namespace PageSync

/-! ## Requests that write the marker -/

/-- Whether a request writes a time into the marker of a page. -/
def Request.marks (s : Settings) (time : String) (q : Request) : Bool :=
  (q.body.bind (·.get? "properties")).bind (·.get? s.modifiedProperty) = some (Property.date time)

/-- Whether a step writes a time into the marker of a page. -/
def Step.marks (s : Settings) (time : String) : Step → Bool
  | .create _ properties | .update _ properties =>
    properties.get? s.modifiedProperty = some (Property.date time)
  | _ => false

section

variable {c : Connection} {settings : Settings} {time : String}

/-- The request of a step shows whether the step writes the marker. -/
theorem Step.marks_of_request {s : Step} {q : Request} (h : s.request c = .ok q) :
    q.marks settings time = s.marks settings time := by
  rw [Request.marks, (Connection.of_request_ok h).2]
  cases s <;> rfl

/-- Steps that write no marker leave requests that write none. -/
theorem Carried.marks_eq_false {steps : List Step} {t : Traffic} {stop : Option Stop}
    (h : Carried c steps t stop) (hs : ∀ s ∈ steps, s.marks settings time = false) :
    ∀ p ∈ t, p.1.marks settings time = false := by
  intro p hp
  obtain ⟨s, hm, hq⟩ := h.exists_step p hp
  exact (Step.marks_of_request hq).trans (hs s hm)

/-- Renewing the content of a page writes no marker. -/
theorem marks_replacePlan (page : Json) (pages : List Page) (batches : List (List Json)) :
    ∀ s ∈ replacePlan page pages batches [], s.marks settings time = false := by
  intro s hs
  rw [replacePlan, List.append_nil] at hs
  have hmap : ∀ {α : Type} (f : α → Step) (xs : List α), (∀ x, (f x).marks settings time = false) →
      s ∈ xs.map f → s.marks settings time = false := by
    intro α f xs hf hx
    obtain ⟨x, -, rfl⟩ := List.mem_map.mp hx
    exact hf x
  rcases List.mem_append.mp hs with hs | hs
  · exact hmap _ _ (fun _ => rfl) hs
  · split at hs
    · rcases List.mem_append.mp hs with hs | hs
      · exact hmap _ _ (fun _ => rfl) hs
      · exact hmap _ _ (fun _ => rfl) hs
    · exact absurd hs List.not_mem_nil

end

/-- **The marker comes last**: before a request that writes it, every request succeeded and all the
blocks were appended; and where the operation failed, so did this request. -/
def MarksLast (s : Settings) (time : String) (blocks : List Json) (t : Traffic) (ok : Bool) :
    Prop :=
  ∀ p ∈ t, p.1.marks s time = true →
    (∃ before, t = before ++ [p] ∧ (∀ p' ∈ before, p'.2.succeeded = true) ∧
      (appendsOf before).flatten = blocks) ∧
    (ok = false → p.2.succeeded = false)

namespace MarksLast

variable {s : Settings} {time : String} {blocks : List Json} {t : Traffic} {ok : Bool}

/-- No marker was sent. -/
theorem of_none (h : ∀ p ∈ t, p.1.marks s time = false) : MarksLast s time blocks t ok := by
  intro p hp hm
  rw [h p hp] at hm
  exact absurd hm Bool.false_ne_true

/-- Only the last request wrote a marker. -/
theorem of_last {q : Request} {o : Outcome} (h : ∀ p ∈ t, p.1.marks s time = false)
    (hall : ∀ p ∈ t, p.2.succeeded = true) (hblocks : (appendsOf t).flatten = blocks)
    (hok : ok = false → o.succeeded = false) : MarksLast s time blocks (t ++ [(q, o)]) ok := by
  intro p hp hm
  rcases List.mem_append.mp hp with hp | hp
  · rw [h p hp] at hm
    exact absurd hm Bool.false_ne_true
  · obtain rfl := List.mem_singleton.mp hp
    exact ⟨⟨t, rfl, hall, hblocks⟩, hok⟩

end MarksLast

/-- **The marker comes first**: the first request creates the page and writes the marker, and no
other request writes it. -/
def MarksFirst (s : Settings) (time : String) (t : Traffic) : Prop :=
  (∀ p ∈ t.head?, p.1.method = "POST" ∧ p.1.marks s time = true) ∧
    ∀ p ∈ t.tail, p.1.marks s time = false

namespace MarksFirst

variable {s : Settings} {time : String} {t : Traffic}

/-- A plan whose first step creates a marked page, and which writes no marker afterwards, writes the
marker first. -/
theorem of_carried {c : Connection} {step : Step} {rest : List Step} {stop : Option Stop}
    (h : Carried c (step :: rest) t stop) (hpost : step.method = "POST")
    (hmarks : step.marks s time = true) (hquiet : ∀ later ∈ rest, later.marks s time = false) :
    MarksFirst s time t := by
  have hfirst : ∀ q, step.request c = .ok q → q.method = "POST" ∧ q.marks s time = true :=
    fun q hq => ⟨(Step.method_of_request hq).trans hpost, (Step.marks_of_request hq).trans hmarks⟩
  cases h with
  | unreadable | refused => exact ⟨nofun, nofun⟩
  | failed hq _ =>
    refine ⟨fun p hp => ?_, nofun⟩
    obtain rfl := Option.mem_some_iff.mp hp
    exact hfirst _ hq
  | next hq _ h' =>
    refine ⟨fun p hp => ?_, h'.marks_eq_false hquiet⟩
    obtain rfl := Option.mem_some_iff.mp hp
    exact hfirst _ hq

/-- A marker was written exactly when the first request succeeded. -/
theorem exists_succeeded_iff (h : MarksFirst s time t) :
    (∃ p ∈ t, p.2.succeeded = true ∧ p.1.marks s time = true) ↔
      ∃ p ∈ t.head?, p.2.succeeded = true := by
  constructor
  · rintro ⟨p, hp, hok, hm⟩
    cases t with
    | nil => exact absurd hp List.not_mem_nil
    | cons first rest =>
      rcases List.mem_cons.mp hp with rfl | hp
      · exact ⟨p, rfl, hok⟩
      · rw [h.2 p hp] at hm
        exact absurd hm Bool.false_ne_true
  · rintro ⟨p, hp, hok⟩
    exact ⟨p, List.mem_of_mem_head? hp, hok, (h.1 p hp).2⟩

end MarksFirst

namespace Blocking.Channel

variable {σ : Type} (ch : Channel σ)

/-! ## Replacing -/

/-- A page that was renewed has all the blocks. -/
theorem flatten_appendsOf_renew {page : Json} {blocks : List Json} {pages : List Page}
    {t : Traffic} (hends : listingEnds pages = true)
    (h : Carried ch.connection
      (replacePlan page pages (batchesOf ch.connection.config.batchSize.toNat blocks) []) t none) :
    (appendsOf t).flatten = blocks := by
  rw [h.appendsOf_eq, h.length_eq, List.take_length,
    filterMap_appended?_replacePlan page pages _ (fun _ hs => absurd hs List.not_mem_nil),
    if_pos hends, flatten_batchesOf ch.connection.config.toNat_batchSize_pos]

/-- **Replacing the content of a page** writes the marker last. -/
theorem marks_replace (page : Json) (blocks : List Json) (time : String) (w : World σ) :
    let marker := Json.obj [(ch.settings.modifiedProperty, Property.date time)]
    let run := (ch.writer.replace page blocks marker).run w
    ∃ t, ch.Exchanged w t run.2 ∧ MarksLast ch.settings time blocks t run.1.isOk := by
  intro marker run
  have hreplace : run = _ := congrArg (Action.run · w) (PageWriter.replace_eq ..)
  obtain ⟨t, stop, h, hok, -⟩ := ch.follows_renew page blocks w
  have hquiet : ∀ p ∈ t, p.1.marks ch.settings time = false :=
    h.carried.marks_eq_false (marks_replacePlan page _ _)
  cases hr : (ch.writer.renew page blocks).run w with
  | mk result w' =>
    rw [hr] at h hok
    cases result with
    | error e =>
      rw [hreplace, Action.run_bind_error hr]
      exact ⟨t, h.exchanged, .of_none hquiet⟩
    | ok done =>
      rw [hreplace, Action.run_bind_ok hr]
      obtain ⟨hends, -⟩ := hok done rfl
      have hblocks := ch.flatten_appendsOf_renew hends (h.stop_eq_none rfl ▸ h.carried)
      have hall := (h.whole rfl).2
      -- the marker is one call, and the last one
      rcases ch.call_cases (.update page marker) w' with ⟨e, hcall, -⟩ |
        ⟨q, o, e, w'', ho, hcall, h'⟩ | ⟨q, o, a, w'', -, -, hcall, h', -⟩
      · have hmark : (ch.writer.mark page marker).run w' = _ := Action.run_bind_error hcall
        rw [Action.run_bind_error hmark]
        exact ⟨t, h.exchanged, .of_none hquiet⟩
      · have hmark : (ch.writer.mark page marker).run w' = _ := Action.run_bind_error hcall
        rw [hcall] at h'
        rw [Action.run_bind_error hmark]
        exact ⟨_, h.exchanged.trans h'.exchanged,
          .of_last hquiet hall hblocks fun _ => Outcome.not_succeeded_of_error ho⟩
      · have hmark : (ch.writer.mark page marker).run w' = _ := Action.run_bind_ok hcall
        rw [hcall] at h'
        rw [Action.run_bind_ok hmark]
        exact ⟨_, h.exchanged.trans h'.exchanged,
          .of_last hquiet hall hblocks fun hno => absurd hno (by simp [Except.isOk, Except.toBool])⟩

/-- **Replacing the content of a page by a document** writes the marker last. -/
theorem marks_replacePageFrom (page : Json) (markdown time : String) (w : World σ) :
    let run := (ch.replacePageFrom page markdown (some time)).run w
    let blocks := (Conversion.ofMarkdown markdown).blocks.map Block.toJson
    ∃ t, ch.Exchanged w t run.2 ∧ MarksLast ch.settings time blocks t run.1.isOk := by
  intro run blocks
  let converted := w.note fun j => (Conversion.run ch.settings markdown j).2
  let marker := Json.obj [(ch.settings.modifiedProperty, Property.date time)]
  have hquiet : converted.journal.requests = w.journal.requests := Conversion.requests_run _ _ _
  have hrun : run = _ := Action.run_bind_ok (ch.run_convert markdown w)
  obtain ⟨t, h, hlast⟩ := ch.marks_replace page blocks time converted
  cases hr : (ch.writer.replace page blocks marker).run converted with
  | mk result w' =>
    rw [hr] at h hlast
    cases result with
    | error e =>
      have hrun' : run = (.error e, w') := hrun.trans (Action.run_bind_error hr)
      rw [hrun']
      exact ⟨t, h.of_note hquiet, hlast⟩
    | ok done =>
      have hrun' : run = _ := hrun.trans (Action.run_bind_ok hr)
      rw [hrun']
      exact ⟨t, (h.note rfl).of_note hquiet, hlast⟩

/-! ## Creating -/

/-- The page comes first in the plan of a creation, and after it nothing writes a marker. -/
theorem createPlan_eq_cons (s : Settings) (time : String) (parent properties : Json)
    (id : Option Json) (batches : List (List Json)) :
    ∃ rest, createPlan parent properties id batches = .create parent properties :: rest ∧
      ∀ step ∈ rest, step.marks s time = false := by
  refine ⟨_, rfl, fun step hs => ?_⟩
  cases id with
  | none => exact absurd hs List.not_mem_nil
  | some id =>
    obtain ⟨batch, -, rfl⟩ := List.mem_map.mp hs
    rfl

/-- A new page has its marker, whatever the extra properties are. -/
theorem marks_create (s : Settings) (parent : Json) (title time : String) (key : Option String)
    (extra : Fields) :
    (Step.create parent (.obj (s.pageProperties title key (some time) extra))).marks s time
      = true := by
  have hlookup : (s.pageProperties title key (some time) extra).lookup s.modifiedProperty
      = some (Property.date time) := Fields.lookup_set_self _ _ _
  rw [Step.marks, Json.get?, Json.fields?, Option.bind_some, hlookup]
  exact decide_eq_true rfl

/-- **Creating a page from a document** writes the marker first, with the page. -/
theorem marks_createPageFrom (database : Json) (title markdown : String) (key : Option String)
    (time : String) (extra : Fields) (w : World σ) :
    let run := (ch.createPageFrom database title markdown key (some time) extra).run w
    ∃ t, ch.Exchanged w t run.2 ∧ MarksFirst ch.settings time t := by
  intro run
  obtain ⟨t, stop, h, -⟩ :=
    ch.follows_createPageFrom database title markdown key (some time) extra w
  obtain ⟨rest, hplan, hquiet⟩ := createPlan_eq_cons ch.settings time
    (.obj [("database_id", database)])
    (.obj (ch.settings.pageProperties title key (some time) extra)) (createdId (t.map (·.2)))
    (batchesOf ch.connection.config.batchSize.toNat
      ((Conversion.ofMarkdown markdown).blocks.map Block.toJson))
  exact ⟨t, h.exchanged, .of_carried (hplan ▸ h.carried) rfl
    (marks_create ch.settings _ title time key extra) hquiet⟩

/-! ## Failed writes -/

/-- **Where a failed write leaves the marker.**  If a replacement fails, no request that succeeded
wrote the marker; and whenever one was sent to write it, every other request had succeeded and all
blocks were appended.  If a creation fails, a request that succeeded wrote the marker exactly when
the first request, which creates the page, succeeded. -/
theorem marker_of_failed_write (time : String) (w : World σ) :
    (∀ (page : Json) (markdown : String),
      let run := (ch.replacePageFrom page markdown (some time)).run w
      let blocks := (Conversion.ofMarkdown markdown).blocks.map Block.toJson
      ∃ t : Traffic,
        run.2.journal.requests = w.journal.requests ++ t.map (·.1) ∧
        ch.network.replies (t.map (·.1)) w.peer = t.map (·.2) ∧
        (∀ e, run.1 = .error e →
          ¬ ∃ p ∈ t, p.2.succeeded = true ∧ p.1.marks ch.settings time = true) ∧
        ∀ p ∈ t, p.1.marks ch.settings time = true →
          ∃ before, t = before ++ [p] ∧ (∀ p' ∈ before, p'.2.succeeded = true) ∧
            (appendsOf before).flatten = blocks) ∧
    (∀ (database : Json) (title markdown : String) (key : Option String) (extra : Fields),
      let run := (ch.createPageFrom database title markdown key (some time) extra).run w
      ∃ t : Traffic,
        run.2.journal.requests = w.journal.requests ++ t.map (·.1) ∧
        ch.network.replies (t.map (·.1)) w.peer = t.map (·.2) ∧
        (∀ p ∈ t.head?, p.1.method = "POST") ∧
        ∀ e, run.1 = .error e →
          ((∃ p ∈ t, p.2.succeeded = true ∧ p.1.marks ch.settings time = true) ↔
            ∃ p ∈ t.head?, p.2.succeeded = true)) := by
  constructor
  · intro page markdown run blocks
    obtain ⟨t, h, hlast⟩ : ∃ t, ch.Exchanged w t run.2 ∧
        MarksLast ch.settings time blocks t run.1.isOk :=
      ch.marks_replacePageFrom page markdown time w
    refine ⟨t, h.requests, h.outcomes, fun e he => ?_, fun p hp hm => (hlast p hp hm).1⟩
    rintro ⟨p, hp, hok, hm⟩
    have hfailed := (hlast p hp hm).2 (congrArg Except.isOk he)
    rw [hok] at hfailed
    exact absurd hfailed.symm Bool.false_ne_true
  · intro database title markdown key extra run
    obtain ⟨t, h, hfirst⟩ : ∃ t, ch.Exchanged w t run.2 ∧ MarksFirst ch.settings time t :=
      ch.marks_createPageFrom database title markdown key time extra w
    exact ⟨t, h.requests, h.outcomes, fun p hp => (hfirst.1 p hp).1,
      fun _ _ => hfirst.exists_succeeded_iff⟩

/-- **A creation may fail after it has written the marker**: the page is there and looks up to date,
but its only batch was refused. -/
theorem marked_without_content :
    let ch := scripted
    let created : Outcome := .response ⟨200, [], "\x7b\"id\": \"page-1\"\x7d"⟩
    let refused : Outcome := .response ⟨500, [], ""⟩
    let w := World.start (Network.Script.mk [some created, some refused] ())
    let run := (ch.createPageFrom (.str "db-1") "Doc" "hello" none (some "2024-02-02") []).run w
    let sent := run.2.journal.requests
    (∃ e, run.1 = .error e) ∧
      ∃ p ∈ sent.zip (ch.network.replies sent w.peer),
        p.2.succeeded = true ∧ p.1.marks ch.settings "2024-02-02" = true := by
  intro ch created refused w run sent
  have hrun : run.1.isOk = false ∧
      (∃ p ∈ sent.zip (ch.network.replies sent w.peer),
        p.2.succeeded = true ∧ p.1.marks ch.settings "2024-02-02" = true) := by
    decide +kernel
  refine ⟨?_, hrun.2⟩
  cases hr : run.1 with
  | error e => exact ⟨e, rfl⟩
  | ok x =>
    have hok := hrun.1
    rw [hr] at hok
    exact absurd hok (by simp [Except.isOk, Except.toBool])

end Blocking.Channel

end PageSync
