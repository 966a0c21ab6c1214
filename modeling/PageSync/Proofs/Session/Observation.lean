import PageSync.Proofs.Session.Twin

/-!
# Proofs/Session/Observation — to be observed changes nothing

Two runs whose settings differ only in what is recorded and shown go on side by side.  Their worlds
stay alike (`World.Alike`): the peer, the requests and the records are the same, the metrics too
where both runs record them, and what is shown is left open.  Settings only decide on metrics and
shown texts by switching a note on or off, so every note keeps worlds alike; what is computed and
sent depends on what the settings share.
-/

namespace PageSync

/-! ## What two runs share -/

/-- Settings without what they ask to record and to show. -/
def Settings.unobserved (s : Settings) : Settings :=
  { s with recordMetrics := false, dumpAst := false, dumpPayload := false }

/-- Settings that differ only in what is recorded and shown, and that, where metrics matter, agree
on whether these are recorded. -/
structure Settings.Alike (metered : Prop) (s s' : Settings) : Prop where
  unobserved : s.unobserved = s'.unobserved
  recordMetrics : metered → s.recordMetrics = s'.recordMetrics

/-- Journals with the same requests and records, and with the same metrics where these matter. -/
structure Journal.Alike (metered : Prop) (j j' : Journal) : Prop where
  requests : j.requests = j'.requests
  logs : j.logs = j'.logs
  metrics : metered → j.metrics = j'.metrics

/-- Worlds that differ only in what a journal may differ in. -/
structure World.Alike {σ : Type} (metered : Prop) (w w' : World σ) : Prop where
  peer : w.peer = w'.peer
  closed : w.closed = w'.closed
  journal : w.journal.Alike metered w'.journal

theorem World.Alike.refl {σ : Type} (metered : Prop) (w : World σ) : w.Alike metered w :=
  ⟨rfl, rfl, rfl, rfl, fun _ => rfl⟩

variable {metered : Prop}

/-! ## Notes -/

/-- Two ways of writing into a journal that keep journals alike. -/
def NotesAlike (metered : Prop) (f f' : Journal → Journal) : Prop :=
  ∀ j j', j.Alike metered j' → (f j).Alike metered (f' j')

namespace Journal.Alike

variable {j j' : Journal} (h : j.Alike metered j')
include h

theorem send (q : Request) : (j.send q).Alike metered (j'.send q) :=
  ⟨congrArg (· ++ [q]) h.requests, h.logs, h.metrics⟩

theorem log (logger : String) (level : Int) (message : String) (extra : Fields) :
    (j.log logger level message extra).Alike metered (j'.log logger level message extra) :=
  ⟨h.requests, congrArg (· ++ [_]) h.logs, h.metrics⟩

/-- A metric is recorded in both or in none, where metrics matter. -/
theorem measure {on on' : Bool} (hon : metered → on = on') (metric : Metric) :
    (j.measure on metric).Alike metered (j'.measure on' metric) where
  requests := by rw [requests_measure, requests_measure, h.requests]
  logs := by rw [logs_measure, logs_measure, h.logs]
  metrics hm := by rw [metrics_measure, metrics_measure, h.metrics hm, hon hm]

/-- What is shown is not compared. -/
theorem dump (on on' : Bool) (text text' : String) :
    (j.dump on text).Alike metered (j'.dump on' text') where
  requests := by rw [requests_dump, requests_dump, h.requests]
  logs := by rw [logs_dump, logs_dump, h.logs]
  metrics hm := by rw [metrics_dump, metrics_dump, h.metrics hm]

end Journal.Alike

namespace Settings.Alike

variable {s s' : Settings} (h : s.Alike metered s')
include h

/-- What does not depend on what is recorded and shown is the same. -/
theorem agree {α : Type} (f : Settings → α) (hf : ∀ s, f s.unobserved = f s) : f s = f s' := by
  rw [← hf s, h.unobserved, hf s']

theorem measureBatch (size : Nat) :
    NotesAlike metered (Receipt.measureBatch s size) (Receipt.measureBatch s' size) :=
  fun _ _ hj => (hj.measure h.recordMetrics _).measure h.recordMetrics _

theorem measureDeleted (count : Nat) :
    NotesAlike metered (Receipt.measureDeleted s count) (Receipt.measureDeleted s' count) :=
  fun _ _ hj => hj.measure h.recordMetrics _

/-- **What a conversion adds**: the blocks do not depend on what is shown of them. -/
theorem observe_conversion (nodes : List Node) (c : Conversion) :
    NotesAlike metered (c.observe s nodes) (c.observe s' nodes) := by
  intro j j' hj
  have hon : metered → (s.recordMetrics && !c.warnings.isEmpty)
      = (s'.recordMetrics && !c.warnings.isEmpty) := fun hm => by rw [h.recordMetrics hm]
  exact ((hj.dump s.dumpAst s'.dumpAst _ _).measure hon _).dump s.dumpPayload s'.dumpPayload _ _

/-- **What an outcome adds**, before it is answered. -/
theorem observe_outcome (q : Request) (o : Outcome) (c : Call) :
    NotesAlike metered (o.observe s q c) (o.observe s' q c) := by
  intro j j' hj
  rcases o with r | ⟨kind, message⟩
  · unfold Outcome.observe Outcome.logResponse
    have hshown : ∀ metric metric' : Metric, ∀ text text',
        (((j.measure s.recordMetrics metric).measure s.recordMetrics metric').dump
          s.dumpPayload text).Alike metered
        (((j'.measure s'.recordMetrics metric).measure s'.recordMetrics metric').dump
          s'.dumpPayload text') := fun metric metric' text text' =>
      ((hj.measure h.recordMetrics metric).measure h.recordMetrics metric').dump _ _ text text'
    by_cases hr : r.isSuccess
    · simp only [hr, if_true]
      exact hshown _ _ _ _
    · simp only [hr]
      exact (hshown _ _ _ _).log _ _ _ _
  · unfold Outcome.observe
    by_cases hk : kind.isNetwork
    · simp only [hk, if_true]
      exact (hj.measure h.recordMetrics _).log _ _ _ _
    · simp only [hk]
      exact hj

end Settings.Alike

namespace Blocking

variable {σ α β : Type}

/-! ## Actions side by side -/

/-- Two actions that have the same results from worlds that are alike, and leave them alike. -/
def Action.Alike (metered : Prop) (a a' : Action σ α) : Prop :=
  ∀ w w' : World σ, w.Alike metered w' →
    (a.run w).1 = (a'.run w').1 ∧ (a.run w).2.Alike metered (a'.run w').2

namespace Action.Alike

theorem pure (x : α) : (Pure.pure x : Action σ α).Alike metered (Pure.pure x) :=
  fun _ _ hw => ⟨rfl, hw⟩

theorem fail (fault : Fault) : (Action.fail fault : Action σ α).Alike metered (.fail fault) :=
  fun _ _ hw => ⟨rfl, hw⟩

theorem ofExcept (x : Except Fault α) :
    (Action.ofExcept x : Action σ α).Alike metered (.ofExcept x) :=
  fun _ _ hw => ⟨rfl, hw⟩

theorem note {f f' : Journal → Journal} (hf : NotesAlike metered f f') :
    (Action.note f : Action σ Unit).Alike metered (.note f') :=
  fun _ _ hw => ⟨rfl, hw.peer, hw.closed, hf _ _ hw.journal⟩

theorem peek (f : σ → α) : (Action.peek f : Action σ α).Alike metered (.peek f) :=
  fun _ _ hw => ⟨congrArg (fun s => Except.ok (f s)) hw.peer, hw⟩

/-- **What follows goes on from worlds that are alike with the same value.** -/
theorem bind {a a' : Action σ α} {f f' : α → Action σ β} (h : a.Alike metered a')
    (hf : ∀ x, (f x).Alike metered (f' x)) : (a >>= f).Alike metered (a' >>= f') := by
  intro w w' hw
  rw [run_bind, run_bind]
  have h := h w w' hw
  revert h
  rcases a.run w with ⟨r, v⟩
  rcases a'.run w' with ⟨r', v'⟩
  rintro ⟨hresult, hworld⟩
  obtain rfl : r = r' := hresult
  rcases r with e | x
  · exact ⟨rfl, hworld⟩
  · exact hf x v v' hworld

theorem attempt {a a' : Action σ α} (h : a.Alike metered a') :
    a.attempt.Alike metered a'.attempt := by
  intro w w' hw
  obtain ⟨hresult, hworld⟩ := h w w' hw
  exact ⟨congrArg Except.ok hresult, hworld⟩

end Action.Alike

/-! ## Calls and lists -/

/-- Two channels to the same network, whose settings are alike. -/
structure Channel.Alike (metered : Prop) (ch ch' : Channel σ) : Prop where
  settings : ch.settings.Alike metered ch'.settings
  network : ch.network = ch'.network

namespace Channel.Alike

variable {ch ch' : Channel σ} (h : ch.Alike metered ch')
include h

/-- **What is sent does not depend on what is observed.** -/
theorem request_eq (method path : String) (args : Fields) :
    ch.connection.request method path args = ch'.connection.request method path args := by
  have hbase : ch.connection.base = ch'.connection.base := by
    have hbase? := h.settings.agree (fun s => Url.base? s.baseUrl) fun _ => rfl
    rw [ch.connection.isBase, ch'.connection.isBase] at hbase?
    exact Option.some.inj hbase?
  have hheaders : ch.connection.headers = ch'.connection.headers := by
    have htoken := h.settings.agree Settings.token fun _ => rfl
    have hversion := h.settings.agree Settings.notionVersion fun _ => rfl
    rw [Connection.headers, Connection.headers, htoken, hversion]
  rw [Connection.request, Connection.request, hbase, hheaders]

theorem exchange (q : Request) : (ch.exchange q).Alike metered (ch'.exchange q) := by
  intro w w' hw
  have hpeer : ch.network.exchange q w.peer = ch'.network.exchange q w'.peer := by
    rw [h.network, hw.peer]
  exact ⟨congrArg (fun r : Outcome × σ => Except.ok r.1) hpeer, congrArg Prod.snd hpeer,
    hw.closed, hw.journal.send q⟩

/-- **A call** has the same answer, whatever is observed of its outcome. -/
theorem call (method path : String) (args : Fields) :
    (ch.call method path args).Alike metered (ch'.call method path args) := by
  rw [Channel.call, Channel.call, h.request_eq]
  refine (Action.Alike.ofExcept _).bind fun q => ?_
  refine (h.exchange q).bind fun o => ?_
  refine (Action.Alike.note (h.settings.observe_outcome q o _)).bind fun _ => ?_
  exact .ofExcept _

theorem load (p : Pager) (cursor : Option Json) :
    (p.load ch cursor).Alike metered (p.load ch' cursor) := by
  refine (h.call _ _ _).bind fun answer => ?_
  refine (Action.Alike.ofExcept _).bind fun page => ?_
  exact .pure _

theorem pageBound : (Pager.pageBound ch).Alike metered (Pager.pageBound ch') := by
  rw [Pager.pageBound, Pager.pageBound, h.network]
  exact .peek _

theorem nextWithin (n : Nat) (p : Pager) :
    (Pager.nextWithin ch n p).Alike metered (Pager.nextWithin ch' n p) := by
  induction n generalizing p with
  | zero =>
    rcases p with ⟨method, path, args, - | ⟨x, rest⟩, cursor | -⟩
    all_goals exact .pure _
  | succ n ih =>
    rcases p with ⟨method, path, args, - | ⟨x, rest⟩, cursor | -⟩
    · exact (h.load _ cursor).bind ih
    all_goals exact .pure _

theorem drainWithin (n : Nat) (p : Pager) :
    (Pager.drainWithin ch n p).Alike metered (Pager.drainWithin ch' n p) := by
  induction n generalizing p with
  | zero =>
    rcases p with ⟨method, path, args, buffer, cursor | -⟩
    all_goals exact .pure _
  | succ n ih =>
    rcases p with ⟨method, path, args, buffer, cursor | -⟩
    · refine (h.load _ cursor).bind fun p => ?_
      exact (ih p).bind fun _ => .pure _
    · exact .pure _

theorem next? (p : Pager) : (p.next? ch).Alike metered (p.next? ch') :=
  h.pageBound.bind fun n => h.nextWithin n p

theorem toList (p : Pager) : (p.toList ch).Alike metered (p.toList ch') :=
  h.pageBound.bind fun n => h.drainWithin n p

end Channel.Alike

/-! ## Delivery and pages -/

/-- Blocks are dealt with alike. -/
structure BlocksAlike (metered : Prop) (a a' : BlocksApi (Action σ)) : Prop where
  children : ∀ id, (a.children id).Alike metered (a'.children id)
  append : ∀ id blocks, (a.append id blocks).Alike metered (a'.append id blocks)
  delete : ∀ id, (a.delete id).Alike metered (a'.delete id)

/-- Pages are dealt with alike. -/
structure PagesAlike (metered : Prop) (a a' : PagesApi (Action σ)) : Prop where
  create : ∀ parent properties,
    (a.create parent properties).Alike metered (a'.create parent properties)
  update : ∀ id properties, (a.update id properties).Alike metered (a'.update id properties)

section Delivery

variable {s s' : Settings} {a a' : BlocksApi (Action σ)}

/-- **Delivering batches**, counted or not. -/
theorem alike_deliverFrom (hs : s.Alike metered s') (h : BlocksAlike metered a a') (parent : Json)
    (total index : Nat) (receipt : Receipt) (batches : List (List Json)) :
    (deliverFrom s a parent total index receipt batches).Alike metered
      (deliverFrom s' a' parent total index receipt batches) := by
  induction batches generalizing index receipt with
  | nil => exact .pure receipt
  | cons batch rest ih =>
    rw [deliverFrom, deliverFrom]
    refine (h.append parent batch).attempt.bind fun answer => ?_
    rcases answer with cause | answer
    · rcases hk : cause.kind? with - | kind
      · simp only [hk]
        exact .fail cause
      · simp only [hk]
        have hlog : NotesAlike metered (Receipt.logFailed parent index total kind)
            (Receipt.logFailed parent index total kind) := fun _ _ hj => hj.log _ _ _ _
        exact (Action.Alike.note hlog).bind fun _ => .fail _
    · have hlog : NotesAlike metered (receipt.logBatch parent batch.length)
          (receipt.logBatch parent batch.length) := fun _ _ hj => hj.log _ _ _ _
      refine (Action.Alike.note hlog).bind fun _ => ?_
      refine (Action.Alike.ofExcept _).bind fun ids => ?_
      refine (Action.Alike.note (hs.measureBatch _)).bind fun _ => ?_
      exact ih _ _

theorem alike_deliver {c c' : Config} (hs : c.settings.Alike metered c'.settings)
    (h : BlocksAlike metered a a') (parent : Json) (blocks : List Json) :
    (deliver c a parent blocks).Alike metered (deliver c' a' parent blocks) := by
  have hsize : c.batchSize = c'.batchSize := hs.agree Settings.batchSize fun _ => rfl
  rw [deliver, deliver, hsize]
  refine (alike_deliverFrom hs h parent _ 0 .none _).bind fun receipt => ?_
  have hlog : NotesAlike metered (receipt.logDone parent) (receipt.logDone parent) :=
    fun _ _ hj => hj.log _ _ _ _
  exact (Action.Alike.note hlog).bind fun _ => .pure _

end Delivery

namespace PageWriter

/-- Two page writers whose settings are alike and whose means work alike. -/
structure Alike (metered : Prop) (v v' : PageWriter σ) : Prop where
  settings : v.config.settings.Alike metered v'.config.settings
  pages : PagesAlike metered v.pages v'.pages
  blocks : BlocksAlike metered v.blocks v'.blocks

namespace Alike

variable {v v' : PageWriter σ} (h : v.Alike metered v')
include h

theorem create (parent properties : Json) (blocks : List Json) :
    (v.create parent properties blocks).Alike metered (v'.create parent properties blocks) := by
  refine (h.pages.create parent properties).bind fun page => ?_
  refine (Action.Alike.ofExcept _).bind fun id => ?_
  exact (alike_deliver h.settings h.blocks id blocks).bind fun _ => .pure _

theorem deleteAll (count : Nat) (ids : List Json) :
    (v.deleteAll count ids).Alike metered (v'.deleteAll count ids) := by
  induction ids generalizing count with
  | nil => exact .pure count
  | cons id rest ih => exact (h.blocks.delete id).bind fun _ => ih (count + 1)

theorem replace (page : Json) (blocks : List Json) (properties : Json) :
    (v.replace page blocks properties).Alike metered (v'.replace page blocks properties) := by
  rw [PageWriter.replace, PageWriter.replace]
  refine (h.blocks.children page).bind fun answer => ?_
  refine (Action.Alike.ofExcept _).bind fun children => ?_
  refine (Action.Alike.ofExcept _).bind fun ids => ?_
  refine (h.deleteAll 0 ids).bind fun deleted => ?_
  refine (Action.Alike.note (h.settings.measureDeleted deleted)).bind fun _ => ?_
  refine (alike_deliver h.settings h.blocks page blocks).bind fun receipt => ?_
  by_cases hp : properties.truthy
  · simp only [hp, if_true]
    exact (h.pages.update page properties).bind fun _ => .pure _
  · simp only [hp]
    exact .pure _

end Alike

end PageWriter

/-! ## Operations and sessions -/

namespace Channel.Alike

variable {ch ch' : Channel σ} (h : ch.Alike metered ch')
include h

theorem blocksApi : BlocksAlike metered ch.blocksApi ch'.blocksApi where
  children _ := (h.toList _).bind fun _ => .pure _
  append _ _ := h.call _ _ _
  delete _ := h.call _ _ _

theorem pagesApi : PagesAlike metered ch.pagesApi ch'.pagesApi where
  create _ _ := h.call _ _ _
  update _ _ := h.call _ _ _

theorem writer : ch.writer.Alike metered ch'.writer :=
  ⟨h.settings, h.pagesApi, h.blocksApi⟩

theorem convert (markdown : String) :
    (ch.convert markdown).Alike metered (ch'.convert markdown) := by
  intro w w' hw
  exact ⟨rfl, hw.peer, hw.closed, h.settings.observe_conversion _ _ _ _ hw.journal⟩

theorem findPage (database : Json) (key : String) :
    (ch.findPage database key).Alike metered (ch'.findPage database key) := by
  have hkey := h.settings.agree Settings.keyProperty fun _ => rfl
  rw [Channel.findPage, Channel.findPage, hkey]
  have hquery : (ch.queryByKey database ch'.settings.keyProperty key).Alike metered
      (ch'.queryByKey database ch'.settings.keyProperty key) :=
    (h.next? _).bind fun _ => .pure _
  refine hquery.bind fun page => ?_
  have hlog : NotesAlike metered (logFound database page) (logFound database page) :=
    fun _ _ hj => hj.log _ _ _ _
  exact (Action.Alike.note hlog).bind fun _ => .pure _

theorem createPageFrom (database : Json) (title markdown : String) (key modified : Option String)
    (extra : Fields) :
    (ch.createPageFrom database title markdown key modified extra).Alike metered
      (ch'.createPageFrom database title markdown key modified extra) := by
  have hproperties := h.settings.agree (·.pageProperties title key modified extra) fun _ => rfl
  rw [Channel.createPageFrom, Channel.createPageFrom, hproperties]
  refine (h.convert markdown).bind fun conversion => ?_
  refine (h.writer.create _ _ _).bind fun (page, receipt) => ?_
  refine (Action.Alike.ofExcept _).bind fun id => ?_
  refine (Action.Alike.ofExcept _).bind fun url => ?_
  exact (Action.Alike.note fun _ _ hj => hj.log _ _ _ _).bind fun _ => .pure _

theorem replacePageFrom (page : Json) (markdown : String) (modified : Option String) :
    (ch.replacePageFrom page markdown modified).Alike metered
      (ch'.replacePageFrom page markdown modified) := by
  have hmarker := h.settings.agree (·.markerProperties modified) fun _ => rfl
  rw [Channel.replacePageFrom, Channel.replacePageFrom, hmarker]
  refine (h.convert markdown).bind fun conversion => ?_
  refine (h.writer.replace _ _ _).bind fun (deleted, receipt) => ?_
  exact (Action.Alike.note fun _ _ hj => hj.log _ _ _ _).bind fun _ => .pure _

/-- **Each operation has the same reply, whatever is observed of it.** -/
theorem perform (op : Operation) : (ch.perform op).Alike metered (ch'.perform op) := by
  rcases op with markdown | ⟨database, key⟩ | ⟨database, title, markdown, key, modified, extra⟩ |
    ⟨page, markdown, modified⟩
  · exact (h.convert markdown).bind fun _ => .pure _
  · exact (h.findPage database key).bind fun _ => .pure _
  · exact (h.createPageFrom database title markdown key modified extra).bind fun _ => .pure _
  · exact (h.replacePageFrom page markdown modified).bind fun _ => .pure _

/-- **Operations in a row** have the same replies and leave worlds that are alike. -/
theorem repliesTo (ops : List Operation) (w w' : World σ) (hw : w.Alike metered w') :
    let done := Operation.repliesTo (fun op => (ch.perform op).run) ops w
    let done' := Operation.repliesTo (fun op => (ch'.perform op).run) ops w'
    done.1 = done'.1 ∧ done.2.Alike metered done'.2 := by
  induction ops generalizing w w' with
  | nil => exact ⟨rfl, hw⟩
  | cons op rest ih =>
    obtain ⟨hreply, hworld⟩ := h.perform op w w' hw
    obtain ⟨hreplies, hend⟩ := ih _ _ hworld
    exact ⟨congrArg₂ List.cons hreply hreplies, hend⟩

end Channel.Alike

end Blocking

end PageSync
