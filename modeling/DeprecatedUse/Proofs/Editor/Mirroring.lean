import DeprecatedUse.Editor.Message
import DeprecatedUse.Proofs.Json.Records
import DeprecatedUse.Proofs.Pipeline.History

/-!
This module contains the comparison of the two receivers of events. What an editor has been sent
mirrors what a recording holds: the last batch of each unit that has a URI, all messages and
notifications, and one registration for each capability.
-/

namespace DeprecatedUse

def Event.registration? : Event → Option (String × Json)
  | .register method options => some (method, options)
  | _ => none

def firstUses : List (String × Json) → List (String × Json)
  | [] => []
  | use :: rest => use :: (firstUses rest).filter (·.1 ≠ use.1)

theorem mem_map_firstUses {uses : List (String × Json)} {method : String}
    : method ∈ (firstUses uses).map Prod.fst ↔ method ∈ uses.map Prod.fst := by
  induction uses with
  | nil => rfl
  | cons use rest ih =>
    have hrest : method ∈ ((firstUses rest).filter (·.1 ≠ use.1)).map Prod.fst
        ↔ method ∈ (firstUses rest).map Prod.fst ∧ method ≠ use.1 := by
      simp only [List.mem_map, List.mem_filter, decide_eq_true_eq]
      constructor
      · rintro ⟨other, ⟨hother, hne⟩, rfl⟩
        exact ⟨⟨other, hother, rfl⟩, hne⟩
      · rintro ⟨⟨other, hother, rfl⟩, hne⟩
        exact ⟨other, ⟨hother, hne⟩, rfl⟩
    rw [firstUses, List.map_cons, List.map_cons, List.mem_cons, List.mem_cons, hrest, ih]
    by_cases h : method = use.1 <;> simp [h]

theorem mem_firstUses_iff {uses : List (String × Json)} {method : String} {options : Json}
    : (method, options) ∈ firstUses uses ↔ uses.lookup method = some options := by
  induction uses with
  | nil => simp [firstUses]
  | cons use rest ih =>
    rw [firstUses, List.mem_cons, List.mem_filter, ih, List.lookup_cons]
    by_cases h : method = use.1
    · subst h
      simp [Prod.ext_iff, eq_comm]
    · simp [Prod.ext_iff, beq_false_of_ne h, h]

theorem firstUses_append_singleton (uses : List (String × Json)) (use : String × Json)
    : firstUses (uses ++ [use])
        = firstUses uses ++ (if use.1 ∈ uses.map Prod.fst then [] else [use]) := by
  induction uses with
  | nil => simp [firstUses]
  | cons first rest ih =>
    rw [List.cons_append, firstUses, firstUses, ih, List.filter_append]
    by_cases hfirst : use.1 = first.1
    · split <;> simp [hfirst]
    · by_cases hrest : use.1 ∈ rest.map Prod.fst
      · simp [hrest]
      · simp [hrest, hfirst]

namespace Recording

theorem perm_insertSorted {s : String} {texts : List String} (h : s ∉ texts)
    : (insertSorted s texts).Perm (s :: texts) := by
  induction texts with
  | nil => exact .refl _
  | cons t rest ih =>
    rw [List.mem_cons, not_or] at h
    rw [insertSorted, if_neg h.1]
    split
    · exact .refl _
    · exact ((ih h.2).cons t).trans (.swap s t rest)

theorem insertSorted_of_mem {s : String} {texts : List String}
    (hsorted : texts.Pairwise (· < ·)) (h : s ∈ texts) : insertSorted s texts = texts := by
  induction texts with
  | nil => cases h
  | cons t rest ih =>
    rw [List.pairwise_cons] at hsorted
    rw [insertSorted]
    by_cases heq : s = t
    · rw [if_pos heq]
    · have hmem : s ∈ rest := (List.mem_cons.1 h).resolve_left heq
      rw [if_neg heq, if_neg (String.lt_asymm (hsorted.1 s hmem)), ih hsorted.2 hmem]

theorem pairwise_insertSorted (s : String) {texts : List String}
    (hsorted : texts.Pairwise (· < ·)) : (insertSorted s texts).Pairwise (· < ·) := by
  by_cases h : s ∈ texts
  · rwa [insertSorted_of_mem hsorted h]
  · induction texts with
    | nil => exact List.pairwise_singleton _ s
    | cons t rest ih =>
      rw [List.mem_cons, not_or] at h
      have htail := hsorted
      rw [List.pairwise_cons] at htail
      rw [insertSorted, if_neg h.1]
      split
      · next hlt =>
        refine List.pairwise_cons.2 ⟨?_, hsorted⟩
        intro u hu
        obtain rfl | hu := List.mem_cons.1 hu
        · exact hlt
        · exact String.lt_trans hlt (htail.1 u hu)
      · next hlt =>
        -- `s` is none of the texts, so one that is not above it is below.
        have hts : t < s := by
          by_contra hts
          exact h.1 (String.le_antisymm hts hlt)
        refine List.pairwise_cons.2 ⟨?_, ih htail.2 h.2⟩
        intro u hu
        obtain rfl | hu := List.mem_cons.1 ((perm_insertSorted h.2).mem_iff.1 hu)
        · exact hts
        · exact htail.1 u hu

end Recording

namespace Editor

def paramsOf (method : String) (sent : List Outgoing) : List Json :=
  (sent.filter (·.method = method)).map Outgoing.params

theorem paramsOf_append (method : String) (sent more : List Outgoing)
    : paramsOf method (sent ++ more) = paramsOf method sent ++ paramsOf method more := by
  rw [paramsOf, List.filter_append, List.map_append]
  rfl

theorem paramsOf_concat_of_ne {method : String} {out : Outgoing} (h : out.method ≠ method)
    (sent : List Outgoing) : paramsOf method (sent ++ [out]) = paramsOf method sent := by
  have hout : paramsOf method [out] = [] := by
    simp [paramsOf, h]
  rw [paramsOf_append, hout, List.append_nil]

/-! What an editor reads from a diagnostic. -/

theorem record?_diagnosticJson (d : Diagnostic)
    : Json.record? ["range", "severity", "code", "source", "message", "tags", "data"]
          (Outgoing.diagnosticJson d)
        = some [
          some (.obj [("start", Outgoing.positionJson d.span.start),
            ("end", Outgoing.positionJson d.span.stop)]),
          some (.nat (Outgoing.severityNumber d.severity)),
          some (.str d.code.word),
          some (.str d.source),
          some (.str d.message),
          if d.code = .deprecatedMemberUsage then some (.arr [.nat 2]) else none,
          d.symbol.map fun symbol => .obj [("symbol", .str symbol)]] := by
  rw [Outgoing.diagnosticJson, Json.record?_obj]
  by_cases h : d.code = .deprecatedMemberUsage <;> simp [h]

theorem positionJson_injective : Function.Injective Outgoing.positionJson := by
  rintro ⟨line, column⟩ ⟨line', column'⟩ h
  simpa [Outgoing.positionJson, Json.nat] using h

theorem diagnosticJson_injective : Function.Injective Outgoing.diagnosticJson := by
  rintro ⟨code, severity, message, ⟨start, stop⟩, source, symbol⟩
    ⟨code', severity', message', ⟨start', stop'⟩, source', symbol'⟩ h
  have hfields := congrArg
    (Json.record? ["range", "severity", "code", "source", "message", "tags", "data"]) h
  simp only [record?_diagnosticJson, Option.some.injEq, List.cons.injEq, Json.obj.injEq,
    Prod.mk.injEq, Json.str.injEq, Json.nat, Json.int.injEq, Int.natCast_inj, true_and,
    and_true] at hfields
  obtain ⟨⟨hstart, hstop⟩, hseverity, hcode, rfl, rfl, -, hsymbol⟩ := hfields
  obtain rfl := positionJson_injective hstart
  obtain rfl := positionJson_injective hstop
  obtain rfl : severity = severity' := by
    revert hseverity
    cases severity <;> cases severity' <;> decide
  obtain rfl : code = code' := by
    revert hcode
    cases code <;> cases code' <;> decide
  obtain rfl : symbol = symbol' := by
    refine Option.map_injective ?_ hsymbol
    intro s t hst
    simpa using hst
  rfl
def publication (uri : Uri) (batch : Batch) : Json :=
  .obj [("uri", .str uri.render),
    ("diagnostics", .arr (batch.diagnostics.map Outgoing.diagnosticJson))]

def isFor (uri : String) (publication : Json) : Bool :=
  (publication.field? "uri").bind Json.str? = some uri

theorem isFor_publication (text : String) (uri : Uri) (batch : Batch)
    : isFor text (publication uri batch) = decide (uri.render = text) := by
  simp [isFor, publication, Json.field?, Json.str?]

def lastPublication? (uri : String) (sent : List Outgoing) : Option Json :=
  ((paramsOf "textDocument/publishDiagnostics" sent).filter (isFor uri)).getLast?

/--
No two units have URIs that are written alike.
-/
def DistinctUris (units : List UnitId) : Prop :=
  ∀ a, a ∈ units → ∀ b, b ∈ units → (unitUri? a).isSome →
    (unitUri? a).map Uri.render = (unitUri? b).map Uri.render → a = b

instance (units : List UnitId) : Decidable (DistinctUris units) :=
  inferInstanceAs (Decidable (∀ a, a ∈ units → _))

def isUnaddressed : Event → Bool
  | .publish unit _ => (unitUri? unit).isNone
  | _ => false

/--
An editor that was sent this mirrors a recording. Of the registrations that were asked for the first
of each method was sent.
-/
structure Mirrors (units : List UnitId) (uses : List (String × Json)) (c : Client)
    (sent : List Outgoing) (r : Recording) : Prop where
  shown : ∀ unit, unit ∈ units → ∀ uri, unitUri? unit = some uri →
    lastPublication? uri.render sent = (r.diagnosticsFor? unit).map (publication uri)
  messages : paramsOf "window/showMessage" sent
    = r.messages.map fun (severity, text) =>
        .obj [("type", .nat (Outgoing.severityNumber severity)), ("message", .str text)]
  notifications : paramsOf "deprecheck/notification" sent
    = r.notifications.map fun (method, payload) =>
        .obj [("method", .str method), ("payload", payload)]
  registrations : paramsOf "client/registerCapability" sent
    = (firstUses uses).map fun (method, options) =>
        .obj [("registrations", .arr [.obj [("id", .str method), ("method", .str method),
          ("registerOptions", options)]])]
  registered : c.registered = (firstUses uses).map Prod.fst
  capabilities : ((firstUses uses).map Prod.fst).Perm r.capabilities
  increasing : r.capabilities.Pairwise (· < ·)

namespace Mirrors

variable {units : List UnitId} {uses : List (String × Json)} {c : Client} {sent : List Outgoing}
  {r : Recording}

theorem publish (h : Mirrors units uses c sent r) (hdistinct : DistinctUris units) {unit : UnitId}
    (hunit : unit ∈ units) (batch : Batch)
    : Mirrors units uses (c.tell (.publish unit batch)).1
        (sent ++ (c.tell (.publish unit batch)).2) (r.record (.publish unit batch)) := by
  rw [Client.tell]
  cases huri : unitUri? unit with
  | none =>
    rw [List.append_nil]
    refine { h with shown := ?_ }
    intro other hother uri hother'
    have hne : other ≠ unit := by
      rintro rfl
      rw [huri] at hother'
      cases hother'
    rw [h.shown other hother uri hother', Recording.record, Recording.diagnosticsFor?,
      Recording.diagnosticsFor?, Table.find?_insert, if_neg hne]
  | some shown =>
    dsimp only
    refine ⟨?_, ?_, ?_, ?_, h.registered, h.capabilities, h.increasing⟩
    · intro other hmem uri hfound
      have hsent : paramsOf "textDocument/publishDiagnostics" [.publish shown batch.diagnostics]
          = [publication shown batch] := by
        simp [paramsOf, Outgoing.method, Outgoing.params, publication]
      rw [lastPublication?, paramsOf_append, hsent, List.filter_append, List.getLast?_append,
        ← lastPublication?, h.shown other hmem uri hfound, Recording.record,
        Recording.diagnosticsFor?, Recording.diagnosticsFor?, Table.find?_insert]
      by_cases heq : other = unit
      · subst heq
        obtain rfl : shown = uri := Option.some.inj (huri.symm.trans hfound)
        simp [isFor_publication]
      · have hrender : shown.render ≠ uri.render := by
          intro hrender
          apply heq
          apply hdistinct other hmem unit hunit
          · rw [hfound, Option.isSome_some]
          · rw [hfound, huri, Option.map_some, Option.map_some, hrender]
        simp [isFor_publication, hrender, heq]
    -- To the messages of the other methods a publication adds nothing.
    · rw [paramsOf_concat_of_ne (by simp [Outgoing.method])]
      exact h.messages
    · rw [paramsOf_concat_of_ne (by simp [Outgoing.method])]
      exact h.notifications
    · rw [paramsOf_concat_of_ne (by simp [Outgoing.method])]
      exact h.registrations

theorem shown_append (h : Mirrors units uses c sent r) {out : Outgoing}
    (hout : out.method ≠ "textDocument/publishDiagnostics") {unit : UnitId} (hunit : unit ∈ units)
    {uri : Uri} (huri : unitUri? unit = some uri)
    : lastPublication? uri.render (sent ++ [out])
        = (r.diagnosticsFor? unit).map (publication uri) := by
  rw [lastPublication?, paramsOf_concat_of_ne hout, ← lastPublication?, h.shown unit hunit uri huri]

theorem message (h : Mirrors units uses c sent r) (severity : Severity) (text : String)
    : Mirrors units uses (c.tell (.message severity text)).1
        (sent ++ (c.tell (.message severity text)).2) (r.record (.message severity text)) := by
  rw [Client.tell, Recording.record]
  refine ⟨?_, ?_, ?_, ?_, h.registered, h.capabilities, h.increasing⟩
  · exact fun unit hunit uri huri => h.shown_append (by simp [Outgoing.method]) hunit huri
  · rw [paramsOf_append, h.messages, List.map_append]
    rfl
  · rw [paramsOf_concat_of_ne (by simp [Outgoing.method]), h.notifications]
  · rw [paramsOf_concat_of_ne (by simp [Outgoing.method]), h.registrations]

theorem notify (h : Mirrors units uses c sent r) (method : String) (payload : Json)
    : Mirrors units uses (c.tell (.notify method payload)).1
        (sent ++ (c.tell (.notify method payload)).2) (r.record (.notify method payload)) := by
  rw [Client.tell, Recording.record]
  refine ⟨?_, ?_, ?_, ?_, h.registered, h.capabilities, h.increasing⟩
  · exact fun unit hunit uri huri => h.shown_append (by simp [Outgoing.method]) hunit huri
  · rw [paramsOf_concat_of_ne (by simp [Outgoing.method]), h.messages]
  · rw [paramsOf_append, h.notifications, List.map_append]
    rfl
  · rw [paramsOf_concat_of_ne (by simp [Outgoing.method]), h.registrations]

theorem register (h : Mirrors units uses c sent r) (method : String) (options : Json)
    : Mirrors units (uses ++ [(method, options)]) (c.tell (.register method options)).1
        (sent ++ (c.tell (.register method options)).2) (r.record (.register method options)) := by
  have hregistered : method ∈ c.registered ↔ method ∈ uses.map Prod.fst := by
    rw [h.registered, mem_map_firstUses]
  have hcapability : method ∈ r.capabilities ↔ method ∈ uses.map Prod.fst := by
    rw [← h.capabilities.mem_iff, mem_map_firstUses]
  rw [Client.tell, Recording.record]
  by_cases hknown : method ∈ uses.map Prod.fst
  · have hfirst : firstUses (uses ++ [(method, options)]) = firstUses uses := by
      rw [firstUses_append_singleton, if_pos hknown, List.append_nil]
    rw [if_pos (List.contains_iff_mem.2 (hregistered.2 hknown)), List.append_nil,
      Recording.insertSorted_of_mem h.increasing (hcapability.2 hknown)]
    refine ⟨h.shown, h.messages, h.notifications, ?_, ?_, ?_, h.increasing⟩
    · rw [hfirst]
      exact h.registrations
    · rw [hfirst]
      exact h.registered
    · rw [hfirst]
      exact h.capabilities
  · have hfirst : firstUses (uses ++ [(method, options)])
        = firstUses uses ++ [(method, options)] := by
      rw [firstUses_append_singleton, if_neg hknown]
    rw [if_neg fun hcontains => hknown (hregistered.1 (List.contains_iff_mem.1 hcontains))]
    refine ⟨?_, ?_, ?_, ?_, ?_, ?_, Recording.pairwise_insertSorted method h.increasing⟩
    · exact fun unit hunit uri huri => h.shown_append (by simp [Outgoing.method]) hunit huri
    · rw [paramsOf_concat_of_ne (by simp [Outgoing.method]), h.messages]
    · rw [paramsOf_concat_of_ne (by simp [Outgoing.method]), h.notifications]
    · rw [paramsOf_append, h.registrations, hfirst, List.map_append]
      rfl
    · rw [hfirst, List.map_append, ← h.registered]
      rfl
    · -- The recording keeps the names in their order, not in that of their first uses.
      rw [hfirst, List.map_append]
      refine (List.perm_append_singleton method _).trans ?_
      refine (h.capabilities.cons method).trans ?_
      exact (Recording.perm_insertSorted fun hmem => hknown (hcapability.1 hmem)).symm

theorem tell (h : Mirrors units uses c sent r) (hdistinct : DistinctUris units) {event : Event}
    (hunit : ∀ unit batch, event = .publish unit batch → unit ∈ units)
    : Mirrors units (uses ++ event.registration?.toList) (c.tell event).1
        (sent ++ (c.tell event).2) (r.record event) := by
  cases event with
  | publish unit batch =>
    show Mirrors units (uses ++ []) _ _ _
    rw [List.append_nil]
    exact h.publish hdistinct (hunit unit batch rfl) batch
  | message severity text =>
    show Mirrors units (uses ++ []) _ _ _
    rw [List.append_nil]
    exact h.message severity text
  | register method options => exact h.register method options
  | notify method payload =>
    show Mirrors units (uses ++ []) _ _ _
    rw [List.append_nil]
    exact h.notify method payload

end Mirrors

namespace Client

theorem tellAll_append_singleton (c : Client) (events : List Event) (event : Event)
    : c.tellAll (events ++ [event])
        = (((c.tellAll events).1.tell event).1,
            (c.tellAll events).2 ++ ((c.tellAll events).1.tell event).2) := by
  rw [tellAll, List.foldl_append]
  rfl

theorem tell_of_isUnaddressed (c : Client) {event : Event} (h : isUnaddressed event = true)
    : c.tell event = (c, []) := by
  unfold isUnaddressed at h
  split at h
  · rw [tell, Option.isNone_iff_eq_none.1 h]
  · cases h

theorem tellAll_filter (c : Client) (events : List Event)
    : c.tellAll (events.filter (!isUnaddressed ·)) = c.tellAll events := by
  induction events using List.reverseRecOn with
  | nil => rfl
  | append_singleton events event ih =>
    rw [List.filter_append, tellAll_append_singleton]
    by_cases h : isUnaddressed event = true
    · rw [List.filter_cons_of_neg (by simp [h]), List.filter_nil, List.append_nil, ih,
        tell_of_isUnaddressed _ h, List.append_nil]
    · rw [List.filter_cons_of_pos (by simp [h]), List.filter_nil, tellAll_append_singleton, ih]

theorem mirrors_empty (units : List UnitId) : Mirrors units [] {} [] {} :=
  ⟨fun _ _ _ _ => rfl, rfl, rfl, rfl, rfl, .refl _, .nil⟩

/--
After any events an editor has been sent what a recording holds: for each unit with a URI the batch
that was recorded last, the messages and the notifications in order, and in the order of their first
use one registration for each capability, with the options that were asked for first. What is told
of units without URIs is not sent.
-/
theorem tellAll_mirrors {units : List UnitId} (hdistinct : DistinctUris units)
    {events : List Event} (hunits : ∀ unit batch, .publish unit batch ∈ events → unit ∈ units)
    : Mirrors units (events.filterMap Event.registration?) (tellAll {} events).1
          (tellAll {} events).2 (Recording.recordAll {} events)
        ∧ (∀ method options, (method, options) ∈ firstUses (events.filterMap Event.registration?)
          ↔ (events.filterMap Event.registration?).lookup method = some options)
        ∧ tellAll {} (events.filter (!isUnaddressed ·)) = tellAll {} events := by
  refine ⟨?_, fun method options => mem_firstUses_iff, tellAll_filter {} events⟩
  induction events using List.reverseRecOn with
  | nil => exact mirrors_empty units
  | append_singleton events event ih =>
    have hbefore := ih fun unit batch h => hunits unit batch (List.mem_append_left _ h)
    have huses : (events ++ [event]).filterMap Event.registration?
        = events.filterMap Event.registration? ++ event.registration?.toList := by
      rw [List.filterMap_append]
      cases event <;> rfl
    rw [tellAll_append_singleton, Recording.recordAll_append_singleton, huses]
    apply hbefore.tell hdistinct
    rintro unit batch rfl
    exact hunits unit batch (List.mem_append_right _ List.mem_cons_self)

theorem tellAll_mirrors_repeated_method
    : let used : Diagnostic :=
        ⟨.deprecatedMemberUsage, .warning, "'A.m' is deprecated", ⟨⟨1, 2⟩, ⟨1, 5⟩⟩, "deprecheck",
          some "A.m"⟩
      let events : List Event := [.publish "/A.java" {}, .register "m" .null,
        .publish "A.java" ⟨[used]⟩, .message .hint "done", .publish "/A.java" ⟨[used]⟩,
        .register "m" (.bool true), .publish "file:///B.java" {}]
      DistinctUris ["/A.java", "A.java", "file:///B.java"]
        ∧ lastPublication? "file:///A.java" (tellAll {} events).2
          = some (.obj [("uri", .str "file:///A.java"), ("diagnostics", .arr [.obj [
              ("range", .obj [("start", .obj [("line", .nat 1), ("character", .nat 2)]),
                ("end", .obj [("line", .nat 1), ("character", .nat 5)])]),
              ("severity", .nat 2), ("code", .str "DEPRECATED_MEMBER_USAGE"),
              ("source", .str "deprecheck"), ("message", .str "'A.m' is deprecated"),
              ("tags", .arr [.nat 2]), ("data", .obj [("symbol", .str "A.m")])]])])
        ∧ paramsOf "window/showMessage" (tellAll {} events).2
          = [.obj [("type", .nat 4), ("message", .str "done")]]
        ∧ paramsOf "client/registerCapability" (tellAll {} events).2
          = [.obj [("registrations", .arr [.obj [("id", .str "m"), ("method", .str "m"),
              ("registerOptions", .null)]])]]
        ∧ tellAll {} (events.filter (!isUnaddressed ·)) = tellAll {} events := by
  intro used events
  have hdistinct : DistinctUris ["/A.java", "A.java", "file:///B.java"] := by
    decide +kernel
  have hunits : ∀ unit batch, .publish unit batch ∈ events →
      unit ∈ ["/A.java", "A.java", "file:///B.java"] := by
    intro unit batch h
    simp [events] at h
    obtain ⟨rfl, -⟩ | ⟨rfl, -⟩ | ⟨rfl, -⟩ | ⟨rfl, -⟩ := h <;> simp
  obtain ⟨hmirrors, -, hunaddressed⟩ := tellAll_mirrors hdistinct hunits
  have huri : (unitUri? "/A.java").map Uri.render = some "file:///A.java" := by
    decide +kernel
  obtain ⟨uri, hfound, hrender⟩ := Option.map_eq_some_iff.1 huri
  have hshown := hmirrors.shown "/A.java" List.mem_cons_self uri hfound
  rw [hrender] at hshown
  refine ⟨hdistinct, hshown.trans ?_, hmirrors.messages, hmirrors.registrations, hunaddressed⟩
  -- The batch that was recorded last has the diagnostic.
  change some (publication uri ⟨[used]⟩) = _
  rw [publication, hrender]
  rfl

end Client

end Editor

end DeprecatedUse
