import DeprecatedUse.Editor.Server
import DeprecatedUse.Proofs.Analysis.DeprecatedUses
import Mathlib.Data.List.Induction

/-!
This module contains what an editor shows while it talks to the server. After every message each
open document is shown with what the analysis finds in its text now, and a closed one with nothing.
-/

namespace DeprecatedUse.Editor

open DeprecatedUse.Java (ParseError SourceUnit)

def Outgoing.shows? (uri : Uri) : Outgoing → Option (List Json)
  | .publish shown diagnostics => if shown = uri then some (diagnostics.map diagnosticJson) else none
  | _ => none

def lastShown? (uri : Uri) (sent : List Outgoing) : Option (List Json) :=
  (sent.filterMap (Outgoing.shows? uri)).getLast?

def Output.shows? (uri : Uri) : Output → Option (List Json)
  | .event (.publish unit batch) =>
    if unitUri? unit = some uri then some (batch.diagnostics.map Outgoing.diagnosticJson) else none
  | _ => none

def lastTold? (uri : Uri) (told : List Output) : Option (List Json) :=
  (told.filterMap (Output.shows? uri)).getLast?

namespace Incoming

def documents : Incoming → List Uri
  | .opened uri _ | .changed uri _ | .saved uri _ | .closed uri => [uri]
  | _ => []

def texts : Incoming → List String
  | .opened _ text => [text]
  | .changed _ texts => texts
  | .saved _ text => text.toList
  | _ => []

def textAfter (uri : Uri) (before : Option String) : Incoming → Option String
  | .opened it text => if it = uri then some text else before
  | .changed it texts => if it = uri then before.map (texts.getLast?.getD ·) else before
  | .saved it text => if it = uri then before.map (text.getD ·) else before
  | .closed it => if it = uri then none else before
  | _ => before

end Incoming

def openText (uri : Uri) (messages : List Incoming) : Option String :=
  messages.foldl (Incoming.textAfter uri) none

/--
The server's side of a talk: its session, and all that it has sent.
-/
structure Talk where
  session : Session
  client : Client := {}
  sent : List Outgoing := []

namespace Talk

def begin (here : Place) (root : Option Path) : Talk where
  session := (Session.start here {} root).1

def withDocuments (t : Talk) (documents : Table Uri Document) : Talk :=
  { t with session := { t.session with documents := documents } }

def hear (t : Talk) (host : Host) (message : Incoming) : Talk :=
  let (session, outputs) := Server.handle host t.session message
  let (client, sent) := Server.sendAll t.client outputs
  ⟨session, client, t.sent ++ sent⟩

/--
The talk has come this far by these messages. Each finds the files as they are then, and the open
documents in no certain order.
-/
inductive Reached : List Incoming → Talk → Prop where
  | begin (here : Place) (root : Option Path) : Reached [] (begin here root)
  | hear {messages : List Incoming} {t : Talk} (h : Reached messages t)
      {documents : Table Uri Document}
      (order : documents.entries.Perm t.session.documents.entries) (host : Host)
      (message : Incoming) :
      Reached (messages ++ [message]) ((t.withDocuments documents).hear host message)

end Talk

/--
These diagnostics are what the analysis of a text finds, or the one error of a text that cannot be
read.
-/
def Session.Finds (s : Session) (uri : Uri) (text : String) (diagnostics : List Diagnostic) :
    Prop :=
  match SourceUnit.parse (unitOf uri) text with
  | .ok u => (Analysis.run s.check s.index.resolve u).result = .ok ⟨diagnostics⟩
  | .error e =>
    ∃ d, diagnostics = [d] ∧ d.code = .parseError ∧ d.severity = .error ∧ d.message = e.message
      ∧ e.position? = some d.span.start

/-! What is sent. -/

theorem Outgoing.filterMap_shows?_send (uri : Uri) (c : Client) (o : Output)
    : (Server.send c o).2.filterMap (shows? uri) = (o.shows? uri).toList := by
  unfold Server.send Client.tell
  cases o with
  | log severity text => rfl
  | event e =>
    cases e with
    | message severity text => rfl
    | notify method payload => rfl
    | register method options =>
      dsimp only
      split
      · rfl
      · rfl
    | publish unit batch =>
      unfold Output.shows?
      dsimp only
      split
      · next hnone => simp [hnone]
      · next shown hsome =>
        by_cases h : shown = uri
        · simp [shows?, hsome, h]
        · simp [shows?, hsome, h]

theorem Outgoing.filterMap_shows?_sendAll (uri : Uri) (c : Client) (told : List Output)
    : (Server.sendAll c told).2.filterMap (shows? uri) = told.filterMap (Output.shows? uri) := by
  unfold Server.sendAll
  suffices h : ∀ sent : List Outgoing,
      ((told.foldl (fun (c, sent) o =>
        let (c, more) := Server.send c o
        (c, sent ++ more)) (c, sent)).2).filterMap (shows? uri)
          =
        sent.filterMap (shows? uri) ++ told.filterMap (Output.shows? uri) by
    exact h []
  induction told generalizing c with
  | nil => intro sent; simp
  | cons o told ih =>
    intro sent
    rw [List.foldl_cons, ih, List.filterMap_append, filterMap_shows?_send, List.append_assoc]
    cases h : o.shows? uri with
    | none => simp [h]
    | some shown => simp [h]

theorem lastTold?_append (uri : Uri) (told more : List Output)
    : lastTold? uri (told ++ more) = (lastTold? uri more).or (lastTold? uri told) := by
  unfold lastTold?
  rw [List.filterMap_append, List.getLast?_append]

theorem lastShown?_append_sendAll (uri : Uri) (sent : List Outgoing) (c : Client)
    (told : List Output)
    : lastShown? uri (sent ++ (Server.sendAll c told).2)
        =
      (lastTold? uri told).or (lastShown? uri sent) := by
  unfold lastShown? lastTold?
  rw [List.filterMap_append, List.getLast?_append, Outgoing.filterMap_shows?_sendAll]

/-! What one analysis tells. -/

namespace Session

theorem finds_congr {s s' : Session} (hproject : s'.project = s.project)
    (hindex : s'.index = s.index) (uri : Uri) (text : String) (diagnostics : List Diagnostic)
    : s'.Finds uri text diagnostics ↔ s.Finds uri text diagnostics := by
  unfold Finds check
  rw [hproject, hindex]

theorem judge_finds (s : Session) (uri : Uri) (text : String)
    : ∃ diagnostics, s.Finds uri text diagnostics
        ∧ s.judge uri text = (.publish (unitOf uri) ⟨diagnostics⟩, true) := by
  unfold Finds judge
  dsimp only
  cases hparse : SourceUnit.parse (unitOf uri) text with
  | error e =>
    refine ⟨(parseErrorBatch e).diagnostics, ?_, rfl⟩
    unfold SourceUnit.parse at hparse
    split at hparse
    · next cause _ =>
      cases hparse
      unfold parseErrorBatch Batch.ofList
      dsimp only
      rw [List.mergeSort_singleton]
      exact ⟨_, rfl, rfl, rfl, rfl, rfl⟩
    · cases hparse
  | ok u =>
    obtain ⟨⟨diagnostics⟩, hrun⟩ := Analysis.run_index_ok hparse s.check s.index
    refine ⟨diagnostics, hrun, ?_⟩
    obtain ⟨tokens, -, rfl⟩ := SourceUnit.parse_ok hparse
    unfold Pipeline.runUnit
    dsimp only
    rw [hrun]
    rfl

def Current (s : Session) (uri : Uri) (d : Document) (shown : Option (List Json)) : Prop :=
  d.analyzed = some (fingerprint d.text)
    ∧ ∃ diagnostics, s.Finds uri d.text diagnostics
      ∧ shown = some (diagnostics.map Outgoing.diagnosticJson)

theorem Current.congr {s s' : Session} {uri : Uri} {d : Document} {shown : Option (List Json)}
    (h : s.Current uri d shown) (hproject : s'.project = s.project) (hindex : s'.index = s.index)
    : s'.Current uri d shown := by
  obtain ⟨hmark, diagnostics, hfinds, hshown⟩ := h
  exact ⟨hmark, diagnostics, (finds_congr hproject hindex _ _ _).2 hfinds, hshown⟩

/--
The session has come up to date with some documents. What it tells is about these only, and nothing
but their marks has changed.
-/
structure Refreshed (uris : List Uri) (s s' : Session) (told : List Output) : Prop where
  project : s'.project = s.project
  index : s'.index = s.index
  text : ∀ uri, (s'.documents.find? uri).map Document.text
    = (s.documents.find? uri).map Document.text
  current : ∀ uri, uri ∈ uris → ∀ d, s'.documents.find? uri = some d →
    s'.Current uri d (lastTold? uri told)
  rest : ∀ uri, uri ∉ uris →
    s'.documents.find? uri = s.documents.find? uri ∧ lastTold? uri told = none
  silent : ∀ uri, s.documents.find? uri = none → lastTold? uri told = none

namespace Refreshed

variable {s s' s'' : Session} {uris uris' : List Uri} {told told' : List Output}

theorem refl (s : Session) : Refreshed [] s s [] where
  project := rfl
  index := rfl
  text _ := rfl
  current _ h := nomatch h
  rest _ _ := ⟨rfl, rfl⟩
  silent _ _ := rfl

theorem trans (h : Refreshed uris s s' told) (h' : Refreshed uris' s' s'' told')
    : Refreshed (uris ++ uris') s s'' (told ++ told') where
  project := h'.project.trans h.project
  index := h'.index.trans h.index
  text uri := (h'.text uri).trans (h.text uri)
  current uri huri d hd := by
    rw [lastTold?_append]
    by_cases huri' : uri ∈ uris'
    · obtain ⟨hmark, diagnostics, hfinds, hshown⟩ := h'.current uri huri' d hd
      rw [hshown]
      exact ⟨hmark, diagnostics, hfinds, rfl⟩
    · obtain ⟨hsame, hquiet⟩ := h'.rest uri huri'
      rw [hsame] at hd
      rw [hquiet, Option.none_or]
      rw [List.mem_append] at huri
      exact (h.current uri (huri.resolve_right huri') d hd).congr h'.project h'.index
  rest uri huri := by
    rw [List.mem_append, not_or] at huri
    obtain ⟨hsame, hquiet⟩ := h.rest uri huri.1
    obtain ⟨hsame', hquiet'⟩ := h'.rest uri huri.2
    rw [lastTold?_append, hquiet, hquiet', Option.none_or]
    exact ⟨hsame'.trans hsame, rfl⟩
  silent uri hnone := by
    have hnone' : s'.documents.find? uri = none := by
      rw [← Option.map_eq_none_iff, h.text, hnone, Option.map_none]
    rw [lastTold?_append, h.silent uri hnone, h'.silent uri hnone', Option.none_or]

theorem append_quiet (quiet : List Output) (hquiet : ∀ uri, lastTold? uri quiet = none)
    (h : Refreshed uris s s' told) : Refreshed uris s s' (quiet ++ told) where
  project := h.project
  index := h.index
  text := h.text
  current uri huri d hd := by
    rw [lastTold?_append, hquiet, Option.or_none]
    exact h.current uri huri d hd
  rest uri huri := by
    rw [lastTold?_append, hquiet, Option.or_none]
    exact h.rest uri huri
  silent uri hnone := by
    rw [lastTold?_append, hquiet, Option.or_none]
    exact h.silent uri hnone

end Refreshed

theorem lastTold?_publish {uri : Uri} (huri : unitUri? (unitOf uri) = some uri) (batch : Batch)
    (other : Uri)
    : lastTold? other [.event (.publish (unitOf uri) batch)]
        =
      if other = uri then some (batch.diagnostics.map Outgoing.diagnosticJson) else none := by
  unfold lastTold? Output.shows?
  by_cases h : other = uri
  · simp [huri, h]
  · simp [huri, h, Ne.symm h]

theorem analyze_refreshed {s : Session} {uri : Uri} (huri : unitUri? (unitOf uri) = some uri)
    {force : Bool}
    (hstale : force = true ∨ ∀ d, s.documents.find? uri = some d →
      d.analyzed ≠ some (fingerprint d.text))
    : Refreshed [uri] s (s.analyze uri force).1 (s.analyze uri force).2 := by
  unfold analyze
  cases hfind : s.documents.find? uri with
  | none =>
    -- A document that is not known is told nothing, and nothing is asked of it.
    refine ⟨rfl, rfl, fun _ => rfl, ?_, fun _ _ => ⟨rfl, rfl⟩, fun _ _ => rfl⟩
    intro other hother d hd
    rw [List.mem_singleton] at hother
    rw [hother, hfind] at hd
    cases hd
  | some d =>
    have hnew : (!force && d.analyzed == some (fingerprint d.text)) = false := by
      rcases hstale with rfl | hstale
      · rfl
      · rw [beq_false_of_ne (hstale d hfind), Bool.and_false]
    obtain ⟨diagnostics, hfinds, hjudge⟩ := s.judge_finds uri d.text
    dsimp only
    rw [hnew, hjudge]
    dsimp only
    rw [if_neg Bool.false_ne_true, if_pos rfl]
    refine ⟨rfl, rfl, ?_, ?_, ?_, ?_⟩
    · intro other
      rw [Table.find?_insert]
      split
      · next h => rw [h, hfind, Option.map_some, Option.map_some]
      · rfl
    · intro other hother d' hd'
      rw [List.mem_singleton] at hother
      subst hother
      rw [Table.find?_insert, if_pos rfl, Option.some.injEq] at hd'
      subst hd'
      rw [lastTold?_publish huri, if_pos rfl]
      exact ⟨rfl, diagnostics, (finds_congr rfl rfl _ _ _).2 hfinds, rfl⟩
    · intro other hother
      rw [List.mem_singleton] at hother
      rw [Table.find?_insert, lastTold?_publish huri, if_neg hother, if_neg hother]
      exact ⟨rfl, rfl⟩
    · intro other hnone
      rw [lastTold?_publish huri, if_neg]
      rintro rfl
      rw [hfind] at hnone
      cases hnone

theorem analyzeOpen_refreshed {s : Session}
    (huris : ∀ uri, uri ∈ s.documents.keys → unitUri? (unitOf uri) = some uri)
    : Refreshed s.documents.keys s s.analyzeOpen.1 s.analyzeOpen.2 := by
  unfold analyzeOpen
  -- The run over the keys has come up to date with `done`, and the keys of `todo` are left.
  suffices h : ∀ (todo done : List Uri) (s' : Session) (told : List Output),
      (∀ uri, uri ∈ todo → unitUri? (unitOf uri) = some uri) → Refreshed done s s' told →
      Refreshed (done ++ todo) s
        (todo.foldl (fun (s, told) uri =>
          let (s, more) := s.analyze uri true
          (s, told ++ more)) (s', told)).1
        (todo.foldl (fun (s, told) uri =>
          let (s, more) := s.analyze uri true
          (s, told ++ more)) (s', told)).2 by
    exact h s.documents.keys [] s [] huris (Refreshed.refl s)
  intro todo
  induction todo with
  | nil =>
    intro done s' told _ hdone
    rw [List.append_nil]
    exact hdone
  | cons uri todo ih =>
    intro done s' told htodo hdone
    have hfirst := analyze_refreshed (htodo uri List.mem_cons_self) (s := s') (.inl rfl)
    have hrest := ih _ _ _ (fun other h => htodo other (List.mem_cons_of_mem uri h))
      (hdone.trans hfirst)
    rw [List.append_assoc] at hrest
    exact hrest

theorem analyze_marked {s : Session} {uri : Uri} {d : Document}
    (hfind : s.documents.find? uri = some d) (hmark : d.analyzed = some (fingerprint d.text))
    : s.analyze uri false = (s, []) := by
  unfold analyze
  rw [hfind]
  dsimp only
  rw [hmark, beq_self_eq_true]
  rfl

theorem find?_setText (s : Session) (uri : Uri) (text : String) (other : Uri)
    : (s.setText uri text).documents.find? other
        =
      if other = uri then (s.documents.find? uri).map fun d => { d with text := text }
      else s.documents.find? other :=
  Table.find?_modify s.documents uri other _

theorem text_setText (s : Session) (uri : Uri) (text : String) (other : Uri)
    : ((s.setText uri text).documents.find? other).map Document.text
        =
      if uri = other then ((s.documents.find? other).map Document.text).map fun _ => text
      else (s.documents.find? other).map Document.text := by
  rw [find?_setText]
  by_cases h : other = uri
  · rw [if_pos h, if_pos h.symm, h, Option.map_map, Option.map_map]
    rfl
  · rw [if_neg h, if_neg (Ne.symm h)]

theorem refresh_documents (s : Session) (uri : Uri) (text : String)
    : (s.refresh uri text).documents = s.documents := by
  unfold refresh
  split
  · rfl
  · rfl

theorem reindex_refreshed (host : Host) {s : Session}
    (huris : ∀ uri, uri ∈ s.documents.keys → unitUri? (unitOf uri) = some uri)
    : Refreshed [] s (s.reindex host).1 (s.reindex host).2
      ∨ ∃ index, Refreshed s.documents.keys { s with index := index } (s.reindex host).1
          (s.reindex host).2 := by
  unfold reindex
  split
  · exact .inl (Refreshed.refl s)
  · refine .inr ?_
    split
    · exact ⟨s.index, Refreshed.append_quiet [_] (fun _ => rfl) (analyzeOpen_refreshed huris)⟩
    · next index failures _ =>
      exact ⟨index, Refreshed.append_quiet (indexed index.stats failures) (fun _ => rfl)
        (analyzeOpen_refreshed (s := { s with index := index }) huris)⟩

end Session

/-! What a whole talk shows. -/

theorem Incoming.textAfter_some {message : Incoming} {uri : Uri} {before : Option String}
    {text : String} (h : message.textAfter uri before = some text)
    : before = some text ∨ uri ∈ message.documents ∧ text ∈ message.texts := by
  -- Only opening, changing, saving and closing are about the text of a document.
  cases message with
  | opened it new =>
    unfold textAfter at h
    dsimp only at h
    split at h
    · next heq =>
      cases heq
      cases h
      exact .inr ⟨List.mem_cons_self, List.mem_cons_self⟩
    · exact .inl h
  | changed it texts =>
    unfold textAfter at h
    dsimp only at h
    split at h
    · next heq =>
      cases heq
      obtain ⟨old, rfl, hnew⟩ := Option.map_eq_some_iff.1 h
      cases hlast : texts.getLast? with
      | none =>
        rw [hlast, Option.getD_none] at hnew
        exact .inl (congrArg some hnew)
      | some new =>
        rw [hlast, Option.getD_some] at hnew
        subst hnew
        exact .inr ⟨List.mem_cons_self, List.mem_of_getLast? hlast⟩
    · exact .inl h
  | saved it new =>
    unfold textAfter at h
    dsimp only at h
    split at h
    · next heq =>
      cases heq
      obtain ⟨old, rfl, hnew⟩ := Option.map_eq_some_iff.1 h
      cases new with
      | none => exact .inl (congrArg some hnew)
      | some new =>
        rw [Option.getD_some] at hnew
        subst hnew
        exact .inr ⟨List.mem_cons_self, List.mem_cons_self⟩
    · exact .inl h
  | closed it =>
    unfold textAfter at h
    dsimp only at h
    split at h
    · cases h
    · exact .inl h
  | _ => exact .inl h

theorem Incoming.textAfter_none {message : Incoming} (hmessage : ∀ uri, message ≠ .closed uri)
    {uri : Uri} {before : Option String} (h : message.textAfter uri before = none)
    : before = none := by
  cases message with
  | closed it => exact absurd rfl (hmessage it)
  | opened it new =>
    unfold textAfter at h
    dsimp only at h
    split at h
    · cases h
    · exact h
  | changed it texts =>
    unfold textAfter at h
    dsimp only at h
    split at h
    · exact Option.map_eq_none_iff.1 h
    · exact h
  | saved it new =>
    unfold textAfter at h
    dsimp only at h
    split at h
    · exact Option.map_eq_none_iff.1 h
    · exact h
  | _ => exact h

theorem openText_concat (uri : Uri) (messages : List Incoming) (message : Incoming)
    : openText uri (messages ++ [message]) = message.textAfter uri (openText uri messages) := by
  unfold openText
  rw [List.foldl_append, List.foldl_cons, List.foldl_nil]

theorem openText_some {uri : Uri} {messages : List Incoming} {text : String}
    (h : openText uri messages = some text)
    : uri ∈ messages.flatMap Incoming.documents ∧ text ∈ messages.flatMap Incoming.texts := by
  induction messages using List.reverseRecOn generalizing text with
  | nil => cases h
  | append_singleton messages message ih =>
    rw [openText_concat] at h
    rw [List.flatMap_append, List.flatMap_append, List.mem_append, List.mem_append,
      List.flatMap_singleton, List.flatMap_singleton]
    rcases Incoming.textAfter_some h with h | h
    · exact ⟨.inl (ih h).1, .inl (ih h).2⟩
    · exact ⟨.inr h.1, .inr h.2⟩

theorem mem_documents_of_mem_keys {messages : List Incoming} {documents : Table Uri Document}
    (h : ∀ uri, (documents.find? uri).map Document.text = openText uri messages) {uri : Uri}
    (huri : uri ∈ documents.keys) : uri ∈ messages.flatMap Incoming.documents := by
  rw [Table.mem_keys_iff, Option.isSome_iff_exists] at huri
  obtain ⟨d, hd⟩ := huri
  have htext := h uri
  rw [hd, Option.map_some] at htext
  exact (openText_some htext.symm).1

namespace Talk

/--
The talk is in step with its messages: the session has the documents that the editor has, each is
shown as it should be, and nothing is shown for one that was closed.
-/
structure InStep (messages : List Incoming) (t : Talk) : Prop where
  text : ∀ uri, (t.session.documents.find? uri).map Document.text = openText uri messages
  current : ∀ uri d, t.session.documents.find? uri = some d →
    t.session.Current uri d (lastShown? uri t.sent)
  cleared : ∀ uri, .closed uri ∈ messages → openText uri messages = none →
    lastShown? uri t.sent = some []

namespace InStep

variable {messages : List Incoming} {t : Talk} {message : Incoming}

theorem begin (here : Place) (root : Option Path) : InStep [] (Talk.begin here root) := by
  have hdocuments : (Talk.begin here root).session.documents = ∅ := by
    unfold Talk.begin Session.start
    cases root with
    | none => rfl
    | some root =>
      dsimp only
      split
      · rfl
      · rfl
  refine ⟨?_, ?_, fun uri h => nomatch h⟩
  · intro uri
    rw [hdocuments]
    rfl
  · intro uri d hd
    rw [hdocuments] at hd
    cases hd

theorem withDocuments (h : InStep messages t) {documents : Table Uri Document}
    (order : documents.entries.Perm t.session.documents.entries)
    : InStep messages (t.withDocuments documents) := by
  have hfind : ∀ uri, (t.withDocuments documents).session.documents.find? uri
      = t.session.documents.find? uri := Table.find?_eq_of_perm order
  refine ⟨?_, ?_, h.cleared⟩
  · intro uri
    rw [hfind]
    exact h.text uri
  · intro uri d hd
    rw [hfind] at hd
    exact (h.current uri d hd).congr rfl rfl

theorem refreshed (h : InStep messages t) (hmessage : ∀ uri, message ≠ .closed uri)
    {uris : List Uri} {s s' : Session} {told : List Output}
    (hrefreshed : Session.Refreshed uris s s' told)
    (htext : ∀ uri, (s.documents.find? uri).map Document.text
      = openText uri (messages ++ [message]))
    (hrest : ∀ uri, uri ∉ uris → ∀ d, s.documents.find? uri = some d →
      t.session.documents.find? uri = some d ∧ s.project = t.session.project
        ∧ s.index = t.session.index)
    : InStep (messages ++ [message])
        ⟨s', (Server.sendAll t.client told).1, t.sent ++ (Server.sendAll t.client told).2⟩ := by
  refine ⟨?_, ?_, ?_⟩
  · intro uri
    exact (hrefreshed.text uri).trans (htext uri)
  · intro uri d hd
    dsimp only at hd ⊢
    rw [lastShown?_append_sendAll]
    by_cases huri : uri ∈ uris
    · obtain ⟨hmark, diagnostics, hfinds, hshown⟩ := hrefreshed.current uri huri d hd
      rw [hshown]
      exact ⟨hmark, diagnostics, hfinds, rfl⟩
    · obtain ⟨hsame, hquiet⟩ := hrefreshed.rest uri huri
      rw [hsame] at hd
      obtain ⟨hbefore, hproject, hindex⟩ := hrest uri huri d hd
      rw [hquiet, Option.none_or]
      exact (h.current uri d hbefore).congr (hrefreshed.project.trans hproject)
        (hrefreshed.index.trans hindex)
  · intro uri hclosed hnone
    have hfind : s.documents.find? uri = none := by
      rw [← Option.map_eq_none_iff, htext, hnone]
    rw [List.mem_append, List.mem_singleton] at hclosed
    rw [openText_concat] at hnone
    rw [lastShown?_append_sendAll, hrefreshed.silent uri hfind, Option.none_or]
    exact h.cleared uri (hclosed.resolve_right (hmessage uri).symm)
      (Incoming.textAfter_none hmessage hnone)

theorem reindexed (h : InStep messages t) (hmessage : ∀ uri, message ≠ .closed uri)
    (hsame : ∀ uri before, message.textAfter uri before = before)
    (huris : ∀ uri, uri ∈ messages.flatMap Incoming.documents → unitUri? (unitOf uri) = some uri)
    (host : Host) (quiet : List Output) (hquiet : ∀ uri, lastTold? uri quiet = none)
    : InStep (messages ++ [message])
        ⟨(t.session.reindex host).1,
          (Server.sendAll t.client (quiet ++ (t.session.reindex host).2)).1,
          t.sent ++ (Server.sendAll t.client (quiet ++ (t.session.reindex host).2)).2⟩ := by
  have htext : ∀ uri, (t.session.documents.find? uri).map Document.text
      = openText uri (messages ++ [message]) := by
    intro uri
    rw [openText_concat, hsame]
    exact h.text uri
  rcases Session.reindex_refreshed host
      fun uri huri => huris uri (mem_documents_of_mem_keys h.text huri) with
    hkept | ⟨index, hnew⟩
  · exact h.refreshed hmessage (hkept.append_quiet quiet hquiet) htext
      fun uri _ d hd => ⟨hd, rfl, rfl⟩
  · refine h.refreshed hmessage (hnew.append_quiet quiet hquiet) htext ?_
    intro uri huri d hd
    rw [Table.mem_keys_iff] at huri
    exact absurd (Option.isSome_iff_exists.2 ⟨d, hd⟩) huri

theorem opened (h : InStep messages t) {uri : Uri} (huri : unitUri? (unitOf uri) = some uri)
    (text : String) (host : Host)
    : InStep (messages ++ [Incoming.opened uri text]) (t.hear host (.opened uri text)) := by
  refine h.refreshed (by intro other heq; cases heq) (Session.analyze_refreshed huri (.inl rfl))
    ?_ ?_
  · intro other
    rw [openText_concat, Table.find?_insert]
    unfold Incoming.textAfter
    dsimp only
    by_cases heq : other = uri
    · rw [if_pos heq, if_pos heq.symm]
      rfl
    · rw [if_neg heq, if_neg (Ne.symm heq)]
      exact h.text other
  · intro other hother d hd
    rw [List.mem_singleton] at hother
    rw [Table.find?_insert, if_neg hother] at hd
    exact ⟨hd, rfl, rfl⟩

theorem closed (h : InStep messages t) {uri : Uri} (huri : unitUri? (unitOf uri) = some uri)
    (host : Host) : InStep (messages ++ [Incoming.closed uri]) (t.hear host (.closed uri)) := by
  -- Closing shows an empty list for this document and nothing for the others.
  have hshown : ∀ other, lastShown? other (t.hear host (.closed uri)).sent
      = if other = uri then some [] else lastShown? other t.sent := by
    intro other
    unfold Talk.hear Server.handle Session.closed
    dsimp only
    rw [lastShown?_append_sendAll, Session.lastTold?_publish huri]
    by_cases heq : other = uri
    · rw [if_pos heq, if_pos heq]
      rfl
    · rw [if_neg heq, if_neg heq, Option.none_or]
  have hfind : ∀ other, (t.hear host (.closed uri)).session.documents.find? other
      = if other = uri then none else t.session.documents.find? other :=
    Table.find?_erase t.session.documents uri
  refine ⟨?_, ?_, ?_⟩
  · intro other
    rw [hfind, openText_concat]
    unfold Incoming.textAfter
    dsimp only
    by_cases heq : other = uri
    · rw [if_pos heq, if_pos heq.symm]
      rfl
    · rw [if_neg heq, if_neg (Ne.symm heq)]
      exact h.text other
  · intro other d hd
    rw [hfind] at hd
    split at hd
    · cases hd
    · next heq =>
      rw [hshown, if_neg heq]
      exact (h.current other d hd).congr rfl rfl
  · intro other hclosed hnone
    rw [hshown]
    split
    · rfl
    · next heq =>
      rw [openText_concat] at hnone
      unfold Incoming.textAfter at hnone
      dsimp only at hnone
      rw [if_neg (Ne.symm heq)] at hnone
      rw [List.mem_append, List.mem_singleton, Incoming.closed.injEq] at hclosed
      exact h.cleared other (hclosed.resolve_right heq) hnone

theorem changed (h : InStep messages t) {uri : Uri} (huri : unitUri? (unitOf uri) = some uri)
    {texts : List String}
    (htexts : ∀ old, old ∈ messages.flatMap Incoming.texts → ∀ new, new ∈ texts →
      fingerprint old = fingerprint new → old = new) (host : Host)
    : InStep (messages ++ [Incoming.changed uri texts]) (t.hear host (.changed uri texts)) := by
  unfold Talk.hear Server.handle Session.changed
  dsimp only
  cases hlast : texts.getLast? with
  | none =>
    refine h.refreshed (by intro other heq; cases heq) (Session.Refreshed.refl t.session) ?_
      fun other _ d hd => ⟨hd, rfl, rfl⟩
    intro other
    rw [openText_concat]
    unfold Incoming.textAfter
    dsimp only
    rw [hlast, h.text]
    split
    · exact Option.map_id'.symm
    · rfl
  | some text =>
    have htext : ∀ other, ((t.session.setText uri text).documents.find? other).map Document.text
        = openText other (messages ++ [Incoming.changed uri texts]) := by
      intro other
      rw [Session.text_setText, openText_concat, h.text]
      unfold Incoming.textAfter
      dsimp only
      rw [hlast]
      rfl
    -- A text that is sent again is not judged again, and what was told of it still holds.
    by_cases hsame : (t.session.documents.find? uri).map Document.text = some text
    · obtain ⟨d, hd, rfl⟩ := Option.map_eq_some_iff.1 hsame
      have hkept : ∀ other, (t.session.setText uri d.text).documents.find? other
          = t.session.documents.find? other := by
        intro other
        rw [Session.find?_setText, hd]
        split
        · next heq => rw [heq, hd, Option.map_some]
        · rfl
      dsimp only
      rw [Session.analyze_marked ((hkept uri).trans hd) (h.current uri d hd).1]
      refine h.refreshed (by intro other heq; cases heq) (Session.Refreshed.refl _) htext ?_
      intro other _ d' hd'
      rw [hkept] at hd'
      exact ⟨hd', rfl, rfl⟩
    · refine h.refreshed (by intro other heq; cases heq)
        (Session.analyze_refreshed huri (.inr ?_)) htext ?_
      · intro new hnew hmark
        rw [Session.find?_setText, if_pos rfl] at hnew
        obtain ⟨old, hold, rfl⟩ := Option.map_eq_some_iff.1 hnew
        rw [hold, Option.map_some, Option.some.injEq] at hsame
        have hopen := h.text uri
        rw [hold, Option.map_some] at hopen
        -- The mark is that of the old text, so the two texts would have one fingerprint.
        rw [(h.current uri old hold).1, Option.some.injEq] at hmark
        exact hsame (htexts old.text (openText_some hopen.symm).2 text
          (List.mem_of_getLast? hlast) hmark)
      · intro other hother d hd
        rw [List.mem_singleton] at hother
        rw [Session.find?_setText, if_neg hother] at hd
        exact ⟨hd, rfl, rfl⟩

theorem saved (h : InStep messages t) (uri : Uri) (text : Option String)
    (huris : ∀ other, other ∈ (messages ++ [Incoming.saved uri text]).flatMap Incoming.documents →
      unitUri? (unitOf other) = some other) (host : Host)
    : InStep (messages ++ [Incoming.saved uri text]) (t.hear host (.saved uri text)) := by
  unfold Talk.hear Server.handle Session.saved
  dsimp only
  generalize hs : t.session.setSaved uri text = s
  have htext : ∀ other, (s.documents.find? other).map Document.text
      = openText other (messages ++ [Incoming.saved uri text]) := by
    intro other
    rw [openText_concat, ← h.text, ← hs]
    unfold Incoming.textAfter
    cases text with
    | none =>
      dsimp only
      split
      · exact Option.map_id'.symm
      · rfl
    | some text => exact Session.text_setText _ _ _ _
  -- Only an open document renews the index, and then all open documents are judged again.
  cases hfind : s.documents.find? uri with
  | none =>
    refine h.refreshed (by intro other heq; cases heq) (Session.Refreshed.refl s) htext ?_
    intro other _ d hd
    subst hs
    cases text with
    | none => exact ⟨hd, rfl, rfl⟩
    | some text =>
      have hother : other ≠ uri := by
        rintro rfl
        rw [hfind] at hd
        cases hd
      unfold Session.setSaved at hd
      rw [Session.find?_setText, if_neg hother] at hd
      exact ⟨hd, rfl, rfl⟩
  | some d =>
    have hrefresh : (s.refresh uri d.text).documents = s.documents :=
      Session.refresh_documents s uri d.text
    refine h.refreshed (by intro other heq; cases heq)
      (Session.analyzeOpen_refreshed (s := s.refresh uri d.text) ?_) ?_ ?_
    · intro other hother
      rw [hrefresh] at hother
      exact huris other (mem_documents_of_mem_keys htext hother)
    · intro other
      rw [hrefresh]
      exact htext other
    · intro other hother d' hd'
      rw [Table.mem_keys_iff] at hother
      exact absurd (Option.isSome_iff_exists.2 ⟨d', hd'⟩) hother

theorem hear (h : InStep messages t) (host : Host) (message : Incoming)
    (huris : ∀ uri, uri ∈ (messages ++ [message]).flatMap Incoming.documents →
      unitUri? (unitOf uri) = some uri)
    (htexts : ∀ old, old ∈ (messages ++ [message]).flatMap Incoming.texts →
      ∀ new, new ∈ (messages ++ [message]).flatMap Incoming.texts →
      fingerprint old = fingerprint new → old = new)
    : InStep (messages ++ [message]) (t.hear host message) := by
  have huri : ∀ uri, uri ∈ message.documents → unitUri? (unitOf uri) = some uri := by
    intro uri hmem
    apply huris
    rw [List.flatMap_append, List.flatMap_singleton, List.mem_append]
    exact .inr hmem
  have huris' : ∀ uri, uri ∈ messages.flatMap Incoming.documents →
      unitUri? (unitOf uri) = some uri := by
    intro uri hmem
    apply huris
    rw [List.flatMap_append, List.mem_append]
    exact .inl hmem
  rw [List.flatMap_append, List.flatMap_singleton] at htexts
  -- Each message has its own lemma; those that are left change no document.
  cases message with
  | opened uri text => exact h.opened (huri uri List.mem_cons_self) text host
  | changed uri texts =>
    exact h.changed (huri uri List.mem_cons_self)
      (fun old hold new hnew => htexts old (List.mem_append_left _ hold) new
        (List.mem_append_right _ hnew)) host
  | saved uri text => exact h.saved uri text huris host
  | closed uri => exact h.closed (huri uri List.mem_cons_self) host
  | ready =>
    exact h.reindexed (by intro other heq; cases heq) (fun _ _ => rfl) huris' host
      Session.greeting fun _ => rfl
  | filesChanged =>
    exact h.reindexed (by intro other heq; cases heq) (fun _ _ => rfl) huris' host []
      fun _ => rfl
  | _ =>
    refine h.refreshed (by intro other heq; cases heq) (Session.Refreshed.refl t.session) ?_
      fun uri _ d hd => ⟨hd, rfl, rfl⟩
    intro uri
    rw [openText_concat]
    exact h.text uri

end InStep

theorem Reached.inStep {messages : List Incoming} {t : Talk} (h : Reached messages t)
    (huris : ∀ uri, uri ∈ messages.flatMap Incoming.documents → unitUri? (unitOf uri) = some uri)
    (htexts : ∀ old, old ∈ messages.flatMap Incoming.texts →
      ∀ new, new ∈ messages.flatMap Incoming.texts → fingerprint old = fingerprint new → old = new)
    : InStep messages t := by
  induction h with
  | begin here root => exact InStep.begin here root
  | @hear messages t h documents order host message ih =>
    have hsub : ∀ {β : Type} (f : Incoming → List β) (b : β), b ∈ messages.flatMap f →
        b ∈ (messages ++ [message]).flatMap f := by
      intro β f b hb
      rw [List.flatMap_append, List.mem_append]
      exact .inl hb
    have hbefore := ih (fun uri huri => huris uri (hsub _ uri huri))
      fun old hold new hnew => htexts old (hsub _ old hold) new (hsub _ new hnew)
    exact (hbefore.withDocuments order).hear host message huris htexts

/--
After every message, each document that the editor has open is shown with what the analysis finds in
its text now, and each one that it has closed with nothing. The documents stand for themselves as
units, and no two texts of the talk have one fingerprint.
-/
theorem Reached.shows {messages : List Incoming} {t : Talk} (h : Reached messages t)
    (huris : ∀ uri, uri ∈ messages.flatMap Incoming.documents → unitUri? (unitOf uri) = some uri)
    (htexts : ∀ old, old ∈ messages.flatMap Incoming.texts →
      ∀ new, new ∈ messages.flatMap Incoming.texts → fingerprint old = fingerprint new → old = new)
    : (∀ uri text, openText uri messages = some text →
        (t.session.documents.find? uri).map Document.text = some text
        ∧ ∃ diagnostics, t.session.Finds uri text diagnostics
          ∧ lastShown? uri t.sent = some (diagnostics.map Outgoing.diagnosticJson))
      ∧ ∀ uri, .closed uri ∈ messages → openText uri messages = none →
        lastShown? uri t.sent = some [] := by
  have hinStep := h.inStep huris htexts
  refine ⟨?_, hinStep.cleared⟩
  intro uri text htext
  have hopen := hinStep.text uri
  rw [htext] at hopen
  obtain ⟨d, hd, rfl⟩ := Option.map_eq_some_iff.1 hopen
  exact ⟨hopen, (hinStep.current uri d hd).2⟩

theorem Reached.shows_changed_and_closed
    : ∃ t diagnostics, Reached [
          .opened ⟨"file", some {}, .segments ["A.java"], none, none⟩ "class A {}",
          .changed ⟨"file", some {}, .segments ["A.java"], none, none⟩
            ["class A {} ", "class A \""],
          .opened ⟨"file", some {}, .segments ["B.java"], none, none⟩ "class A {}",
          .closed ⟨"file", some {}, .segments ["B.java"], none, none⟩] t
        ∧ t.session.Finds ⟨"file", some {}, .segments ["A.java"], none, none⟩ "class A \""
          diagnostics
        ∧ lastShown? ⟨"file", some {}, .segments ["A.java"], none, none⟩ t.sent
          = some (diagnostics.map Outgoing.diagnosticJson)
        ∧ lastShown? ⟨"file", some {}, .segments ["B.java"], none, none⟩ t.sent = some [] := by
  let host : Host := ⟨default, fun _ _ _ => .error .badWord⟩
  have h := Reached.begin default none
    |>.hear (.refl _) host
      (.opened ⟨"file", some {}, .segments ["A.java"], none, none⟩ "class A {}")
    |>.hear (.refl _) host
      (.changed ⟨"file", some {}, .segments ["A.java"], none, none⟩
        ["class A {} ", "class A \""])
    |>.hear (.refl _) host
      (.opened ⟨"file", some {}, .segments ["B.java"], none, none⟩ "class A {}")
    |>.hear (.refl _) host (.closed ⟨"file", some {}, .segments ["B.java"], none, none⟩)
  obtain ⟨hopen, hclosed⟩ := h.shows (by decide +kernel) (by decide +kernel)
  obtain ⟨-, diagnostics, hfinds, hshown⟩ :=
    hopen ⟨"file", some {}, .segments ["A.java"], none, none⟩ "class A \"" (by decide +kernel)
  exact ⟨_, diagnostics, h, hfinds, hshown, hclosed _ (by decide +kernel) (by decide +kernel)⟩

end Talk

end DeprecatedUse.Editor
