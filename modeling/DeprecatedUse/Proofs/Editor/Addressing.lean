import DeprecatedUse.Proofs.Editor.View
import DeprecatedUse.Proofs.Uri.Foreign
import DeprecatedUse.Proofs.Workspace.Spellings

/-!
This module contains the way from the URI of a document to its unit and back. It leads to the same
URI for files that are written as plainly as they can be, and for documents that are no files and
whose host is written as it is read.
-/

namespace DeprecatedUse

/-! Absolute paths. -/

namespace Path

theorem isAbsolute_slash (rest : Name) : isAbsolute ⟨slash :: rest⟩ = true := by
  rfl

theorem bytes_componentOf (part : Name) : (componentOf part).bytes = part := by
  rw [componentOf]
  split
  · next h => rw [h, Component.bytes]
  · rw [Component.bytes]

theorem components_slash (rest : Name)
    : components ⟨slash :: rest⟩
        = .root :: ((Text.splitOn slash rest).filter (!isIdle ·)).map componentOf := by
  rw [components, dissect_of_root rfl]
  rfl

end Path

namespace Uri

/--
The URI of a file with these names on the way to it, written as plainly as it can be.
-/
def plainFile (names : List Name) : Uri where
  scheme := "file"
  authority := some {}
  body := .segments <|
    if names.isEmpty then [""] else names.map fun name => String.ofList (encodeName name)

def IsPart (name : Name) : Prop :=
  Path.isIdle name = false ∧ Path.slash ∉ name

def partsOf (rest : Name) : List Name :=
  (Text.splitOn Path.slash rest).filter (!Path.isIdle ·)

theorem ofPath?_slash (rest : Name)
    : ofPath? ⟨Path.slash :: rest⟩ = some (plainFile (partsOf rest)) := by
  have hnames : ∀ parts : List Name,
      (parts.map Path.componentOf).map (fun c => String.ofList (encodeName c.bytes))
        = parts.map fun name => String.ofList (encodeName name) := by
    intro parts
    rw [List.map_map]
    apply List.map_congr_left
    intro part _
    rw [Function.comp_apply, Path.bytes_componentOf]
  rw [ofPath?, Path.components_slash]
  dsimp only
  rw [hnames, plainFile, List.isEmpty_map, partsOf]

theorem isPart_of_mem_partsOf {rest name : Name} (h : name ∈ partsOf rest) : IsPart name := by
  obtain ⟨hmem, hidle⟩ := List.mem_filter.1 h
  exact ⟨Bool.not_eq_true' _ ▸ hidle, Text.not_mem_of_mem_splitOn hmem⟩

theorem exists_partsOf_eq {text : String} {rest : Name}
    (h : Text.Utf8.encode text = Path.slash :: rest)
    : ∃ names : List String, partsOf rest = names.map Text.Utf8.encode := by
  have hsplit := Text.splitOn_encode text
  rw [h, Text.splitOn, if_pos rfl] at hsplit
  obtain ⟨-, parts, -, -, hparts⟩ := List.map_eq_cons_iff.1 hsplit.symm
  refine ⟨(parts.filter fun part => !Path.isIdle (Text.Utf8.bytes part)).map String.ofList, ?_⟩
  rw [partsOf, ← hparts, List.filter_map, List.map_map]
  apply List.map_congr_left
  intro part _
  rw [Function.comp_apply, Text.Utf8.encode_ofList]
  rfl

theorem bytes_filePath? {u : Uri} {p : Path} (h : u.filePath? = some p)
    : ∃ rest, p.bytes = Path.slash :: rest := by
  rw [filePath?] at h
  cases hbody : u.body with
  | opaqueText text =>
    rw [hbody] at h
    cases h
  | segments names =>
    rw [hbody] at h
    dsimp only at h
    split at h
    · next hhere =>
      cases names with
      | nil => exact absurd rfl hhere.1
      | cons name names =>
        rw [Option.some.injEq] at h
        subst h
        dsimp only
        rw [List.flatMap_cons, List.cons_append]
        split
        · exact ⟨_, List.cons_append⟩
        · exact ⟨_, rfl⟩
    · cases h

theorem split_parts {names : List Name} (h : ∀ name, name ∈ names → IsPart name) {rest : Name}
    (hrest : Path.slash :: rest = names.flatMap (Path.slash :: ·)
      ∨ Path.slash :: rest = names.flatMap (Path.slash :: ·) ++ [Path.slash])
    : partsOf rest = names := by
  have hkeep : names.filter (!Path.isIdle ·) = names := by
    rw [List.filter_eq_self]
    intro name hname
    rw [(h name hname).1]
    rfl
  have hslash : ∀ name, name ∈ names → Path.slash ∉ name := fun name hname => (h name hname).2
  rw [partsOf]
  cases names with
  | nil =>
    obtain hrest | hrest := hrest
    · cases hrest
    · cases hrest
      rfl
  | cons name names =>
    obtain hrest | hrest := hrest
    · rw [List.flatMap_cons, List.cons_append, List.cons.injEq] at hrest
      rw [hrest.2, Text.splitOn_flatMap hslash, hkeep]
    -- A slash at the end leaves an empty part behind it, which is idle.
    · rw [List.flatMap_cons, List.cons_append, List.cons_append, List.cons.injEq] at hrest
      have hparts : rest = name ++ (names ++ [[]]).flatMap (Path.slash :: ·) := by
        rw [hrest.2, List.flatMap_append, List.append_assoc]
        rfl
      have hslash' : ∀ p, p ∈ name :: (names ++ [[]]) → Path.slash ∉ p := by
        intro p hp
        rw [← List.cons_append, List.mem_append, List.mem_singleton] at hp
        obtain hp | rfl := hp
        · exact hslash p hp
        · exact List.not_mem_nil
      rw [hparts, Text.splitOn_flatMap hslash', ← List.cons_append, List.filter_append, hkeep]
      exact List.append_nil _

theorem flatMap_decode_names (names : List Name)
    : (names.map fun name => String.ofList (encodeName name)).flatMap
          (fun n => Path.slash :: decode n.toList)
        = names.flatMap (Path.slash :: ·) := by
  rw [List.flatMap_map]
  congr 1
  funext name
  rw [String.toList_ofList, decode_encodeName]

theorem filePath?_plainFile_cons (name : Name) (names : List Name)
    : (plainFile (name :: names)).filePath?
        =
      some ⟨if endsInDrive ((name :: names).flatMap (Path.slash :: ·)) then
          (name :: names).flatMap (Path.slash :: ·) ++ [Path.slash]
        else
          (name :: names).flatMap (Path.slash :: ·)⟩ := by
  rw [filePath?, plainFile, List.isEmpty_cons, if_neg Bool.false_ne_true]
  dsimp only
  rw [if_pos ⟨List.cons_ne_nil _ _, rfl⟩, flatMap_decode_names]

theorem filePath?_plainFile (names : List Name)
    : ∃ rest, (plainFile names).filePath? = some ⟨Path.slash :: rest⟩
        ∧ (Path.slash :: rest = names.flatMap (Path.slash :: ·)
          ∨ Path.slash :: rest = names.flatMap (Path.slash :: ·) ++ [Path.slash]) := by
  cases names with
  | nil =>
    refine ⟨[], ?_, .inr rfl⟩
    rw [filePath?, plainFile, List.isEmpty_nil, if_pos rfl]
    rfl
  | cons name names =>
    rw [filePath?_plainFile_cons]
    split
    · exact ⟨_, rfl, .inr rfl⟩
    · exact ⟨_, rfl, .inl rfl⟩

theorem isText_filePath?_plainFile {names : List String} {p : Path}
    (h : (plainFile (names.map Text.Utf8.encode)).filePath? = some p) : p.IsText := by
  have hbytes : (names.map Text.Utf8.encode).flatMap (Path.slash :: ·)
      = Text.Utf8.bytes (names.flatMap fun name => '/' :: name.toList) := by
    rw [List.flatMap_map, Text.Utf8.bytes_flatMap]
    congr 1
    funext name
    rw [Text.Utf8.encode_eq_bytes]
    rfl
  have hslash : Text.Utf8.bytes ['/'] = [Path.slash] := rfl
  obtain ⟨rest, hpath, hrest⟩ := filePath?_plainFile (names.map Text.Utf8.encode)
  rw [h, Option.some.injEq] at hpath
  subst hpath
  obtain hrest | hrest := hrest
  · rw [hrest, hbytes]
    exact Path.isText_bytes _
  · rw [hrest, hbytes, ← hslash, ← Text.Utf8.bytes_append]
    exact Path.isText_bytes _

end Uri

namespace Editor

open Uri

theorem unitUri?_slash {text : String} {rest : Name}
    (h : Text.Utf8.encode text = Path.slash :: rest)
    : unitUri? text = some (plainFile (partsOf rest)) := by
  rw [unitUri?, h, Path.isAbsolute_slash, if_pos rfl, ofPath?_slash]

theorem unitUri?_unitOf_file {u : Uri} {p : Path} (h : u.filePath? = some p)
    : unitUri? (unitOf u) = some u
        ↔ ∃ names : List String, (∀ name, name ∈ names → IsPart name)
            ∧ u = plainFile (names.map Text.Utf8.encode) := by
  rw [unitOf, h]
  dsimp only
  constructor
  · obtain ⟨rest, hrest⟩ := bytes_filePath? h
    obtain ⟨rest', hrest'⟩ := Path.encode_text_slash hrest
    rw [unitUri?_slash hrest', Option.some.injEq]
    intro hu
    obtain ⟨names, hnames⟩ := exists_partsOf_eq hrest'
    rw [hnames] at hu
    refine ⟨names, fun name hname => ?_, hu.symm⟩
    apply isPart_of_mem_partsOf
    rw [hnames]
    exact List.mem_map_of_mem hname
  · rintro ⟨names, hnames, rfl⟩
    obtain ⟨rest, hpath, hrest⟩ := filePath?_plainFile (names.map Text.Utf8.encode)
    have htext := isText_filePath?_plainFile h
    rw [hpath, Option.some.injEq] at h
    subst h
    rw [unitUri?_slash htext, split_parts (List.forall_mem_map.2 hnames) hrest]

theorem unitUri?_unitOf_foreign {written : String} {u : Uri} (h : Uri.parse? written = some u)
    (hpath : u.filePath? = none)
    : unitUri? (unitOf u) = some u ↔ KeepsHost u := by
  have hforeign := isForeign_of_parse? h hpath
  have hrelative : Path.isAbsolute ⟨u.render⟩ = false := by
    obtain ⟨c, hc, halpha⟩ := hforeign.first_render
    rw [← Bool.not_eq_true, Path.isAbsolute, beq_iff_eq, List.head?_eq_some_iff]
    rintro ⟨rest, hrest⟩
    dsimp only at hrest
    have hslash : Text.Utf8.bytes u.render.toList = String.utf8EncodeChar '/' ++ rest := by
      rw [← Text.Utf8.encode_eq_bytes, hrest]
      rfl
    obtain ⟨cs, hcs, -⟩ := Text.Utf8.bytes_eq_append hslash
    rw [hcs] at hc
    cases hc
    cases halpha
  rw [unitOf, hpath]
  dsimp only
  rw [unitUri?, hrelative, if_neg Bool.false_ne_true]
  exact parse?_render_iff hforeign

/-! What is published. -/

inductive Concerns (uri : Uri) : Incoming → Prop
  | opened (text : String) : Concerns uri (.opened uri text)
  | changed (texts : List String) : Concerns uri (.changed uri texts)
  | closed : Concerns uri (.closed uri)

/--
Whatever is published because of a document is published under its URI, and nothing is shown there
any more once it is closed.
-/
def PublishesTo (uri : Uri) : Prop :=
  ∀ (host : Host) (s : Session) (c : Client),
    (∀ message, Concerns uri message → ∀ shown diagnostics,
        .publish shown diagnostics ∈ (Server.sendAll c (Server.handle host s message).2).2 →
          shown = uri)
      ∧ (Server.sendAll c (Server.handle host s (.closed uri)).2).2 = [.publish uri []]

theorem handle_publishes {uri : Uri} {message : Incoming} (h : Concerns uri message) (host : Host)
    (s : Session)
    : ∀ o, o ∈ (Server.handle host s message).2 → ∃ batch, o = .event (.publish (unitOf uri) batch)
    := by
  have hanalyze : ∀ (s : Session) (force : Bool) (o : Output), o ∈ (s.analyze uri force).2 →
      ∃ batch, o = .event (.publish (unitOf uri) batch) := by
    intro s force o ho
    rw [Session.analyze] at ho
    split at ho
    · cases ho
    · next d _ =>
      obtain ⟨diagnostics, -, hjudge⟩ := s.judge_finds uri d.text
      dsimp only at ho
      rw [hjudge] at ho
      split at ho
      · cases ho
      · exact ⟨_, List.mem_singleton.1 ho⟩
  intro o ho
  cases h with
  | opened text => exact hanalyze _ true o ho
  | changed texts =>
    rw [Server.handle, Session.changed] at ho
    split at ho
    · cases ho
    · exact hanalyze _ false o ho
  | closed => exact ⟨_, List.mem_singleton.1 ho⟩

theorem unit_of_mem_send {c : Client} {unit : UnitId} {batch : Batch} {shown : Uri}
    {diagnostics : List Diagnostic}
    (h : .publish shown diagnostics ∈ (Server.send c (.event (.publish unit batch))).2)
    : unitUri? unit = some shown := by
  rw [Server.send, Client.tell] at h
  split at h
  · cases h
  · next hunit =>
    cases List.mem_singleton.1 h
    exact hunit

theorem exists_of_mem_sendAll {c : Client} {outputs : List Output} {out : Outgoing}
    (h : out ∈ (Server.sendAll c outputs).2)
    : ∃ c' o, o ∈ outputs ∧ out ∈ (Server.send c' o).2 := by
  suffices hfold : ∀ out, out ∈ (Server.sendAll c outputs).2 →
      ∃ c' o, o ∈ outputs ∧ out ∈ (Server.send c' o).2 from hfold out h
  rw [Server.sendAll]
  refine List.foldlRecOn (motive := fun sent : Client × List Outgoing =>
    ∀ out, out ∈ sent.2 → ∃ c' o, o ∈ outputs ∧ out ∈ (Server.send c' o).2) _ _ ?_ ?_
  · intro out hout
    cases hout
  · intro sent hsent o ho out hout
    obtain hout | hout := List.mem_append.1 hout
    · exact hsent out hout
    · exact ⟨sent.1, o, ho, hout⟩

theorem publishesTo_iff (uri : Uri) : PublishesTo uri ↔ unitUri? (unitOf uri) = some uri := by
  constructor
  · intro h
    let host : Host := ⟨default, fun _ _ _ => .error .badWord⟩
    have hclosed := (h host default default).2
    have hmem : .publish uri [] ∈
        (Server.sendAll default (Server.handle host default (.closed uri)).2).2 := by
      rw [hclosed]
      exact List.mem_singleton_self _
    obtain ⟨c, o, ho, hsend⟩ := exists_of_mem_sendAll hmem
    rw [List.mem_singleton.1 ho] at hsend
    exact unit_of_mem_send hsend
  · intro h host s c
    constructor
    · intro message hconcerns shown diagnostics hmem
      obtain ⟨c', o, ho, hsend⟩ := exists_of_mem_sendAll hmem
      obtain ⟨batch, rfl⟩ := handle_publishes hconcerns host s o ho
      exact Option.some.inj ((unit_of_mem_send hsend).symm.trans h)
    · rw [Server.handle, Session.closed, Server.sendAll, List.foldl_cons, List.foldl_nil]
      dsimp only
      rw [Server.send, Client.tell, h]
      rfl

/--
Diagnostics go to the document that was opened exactly if its URI is written in one certain way. Of
a file it has to be as plain as it can be, without a host, a query or a fragment, and with no
character encoded that need not be; of anything else the host has to be read as it is written.
-/
theorem publishesTo_parse?_iff {written : String} {u : Uri} (h : Uri.parse? written = some u)
    : (PublishesTo u ↔ unitUri? (unitOf u) = some u)
      ∧ (unitUri? (unitOf u) = some u
        ↔ (∃ names : List String, (∀ name, name ∈ names → IsPart name)
            ∧ u = plainFile (names.map Text.Utf8.encode))
          ∨ (u.filePath? = none ∧ KeepsHost u)) := by
  refine ⟨publishesTo_iff u, ?_⟩
  cases hpath : u.filePath? with
  | none =>
    rw [unitUri?_unitOf_foreign h hpath]
    refine ⟨fun hkeeps => .inr ⟨rfl, hkeeps⟩, ?_⟩
    rintro (⟨names, -, rfl⟩ | ⟨-, hkeeps⟩)
    · obtain ⟨rest, hsome, -⟩ := filePath?_plainFile (names.map Text.Utf8.encode)
      rw [hsome] at hpath
      cases hpath
    · exact hkeeps
  | some p =>
    rw [unitUri?_unitOf_file hpath]
    refine ⟨.inl, ?_⟩
    rintro (hplain | ⟨hnone, -⟩)
    · exact hplain
    · cases hnone

theorem publishesTo_parse?_iff_untitled
    : Uri.parse? "untitled:Untitled-1"
        = some ⟨"untitled", none, .opaqueText "Untitled-1", none, none⟩
      ∧ unitUri? (unitOf ⟨"untitled", none, .opaqueText "Untitled-1", none, none⟩)
        = some ⟨"untitled", none, .opaqueText "Untitled-1", none, none⟩ := by
  have hread : Uri.parse? "untitled:Untitled-1"
      = some ⟨"untitled", none, .opaqueText "Untitled-1", none, none⟩ := by
    decide +kernel
  refine ⟨hread, (publishesTo_parse?_iff hread).2.2 (.inr ⟨rfl, ?_⟩)⟩
  rintro a ⟨⟩

/--
Nothing is shown under the URI of a file in which a character is encoded that need not be, or behind
which a query is written: the diagnostics go to another document.
-/
theorem unitUri?_unitOf_plusSign
    : Uri.parse? "file:///src/a%2Bb/A.java"
          = some ⟨"file", some {}, .segments ["src", "a%2Bb", "A.java"], none, none⟩
      ∧ unitUri? (unitOf ⟨"file", some {}, .segments ["src", "a%2Bb", "A.java"], none, none⟩)
          = some ⟨"file", some {}, .segments ["src", "a+b", "A.java"], none, none⟩
      ∧ Uri.parse? "git:/src/A.java?HEAD"
          = some ⟨"git", none, .segments ["src", "A.java"], some "HEAD", none⟩
      ∧ unitUri? (unitOf ⟨"git", none, .segments ["src", "A.java"], some "HEAD", none⟩)
          = some ⟨"file", some {}, .segments ["src", "A.java"], none, none⟩ := by
  decide +kernel

end Editor

end DeprecatedUse
