import DeprecatedUse.Proofs.Uri.Reading
import DeprecatedUse.Uri.Basic

/-!
This module contains the URIs that stand for no file of this host. Every URI that is read has one of
three forms, and it is read again from its writing exactly if its host is read as it is written.
-/

namespace DeprecatedUse.Uri

inductive IsForeign : Uri → Prop
  | text {scheme : String} {text : List Char} {query fragment : Option String}
      (h : IsOpaque scheme text query fragment)
      : IsForeign ⟨scheme, none, .opaqueText (String.ofList text), query, fragment⟩
  | place {scheme : String} {a : Authority} {names : List (List Char)}
      {query fragment : Option String}
      (h : IsHosted (isNetScheme scheme) scheme a names query fragment) (hfile : scheme ≠ "file")
      (hnames : isNetScheme scheme = true → names ≠ [])
      : IsForeign ⟨scheme, some a, .segments (names.map String.ofList), query, fragment⟩
  | remote {host first : List Char} {names : List (List Char)} {query fragment : Option String}
      (h : IsRemote host first names query fragment)
      : IsForeign ⟨"file", some { host := String.ofList host },
          .segments ((first :: names).map String.ofList), query, fragment⟩

/-! Reading. -/

theorem filePath?_ne_none {scheme : String} {authority : Option Authority} {name : String}
    {names : List String} {query fragment : Option String}
    (h : (authority.all fun a => a.host == "" || a.host == "localhost") = true)
    : filePath? ⟨scheme, authority, .segments (name :: names), query, fragment⟩ ≠ none := by
  rw [filePath?]
  dsimp only
  rw [if_pos ⟨List.cons_ne_nil _ _, h⟩]
  exact Option.some_ne_none _

theorem isForeign_of_withAuthority? {scheme : String} {c : Cut} {cs : List Char} {u : Uri}
    (hscheme : IsScheme scheme.toList) (hfile : scheme ≠ "file")
    (h : withAuthority? scheme c cs = some u) : IsForeign u := by
  rw [withAuthority?] at h
  dsimp only at h
  obtain ⟨read, hread, h⟩ := Option.bind_eq_some_iff.1 h
  have hnormal : read.1.Normal scheme := normal_of_authority? hread
  have htail := isTail_withTail (isNetScheme scheme) c
  rw [Option.pure_def, Option.some.injEq] at h
  subst h
  split
  · next hnil =>
    exact .place ⟨hscheme, hnormal, List.forall_mem_nil _, htail default⟩ hfile
      fun hnet => absurd hnet hnil.2
  · obtain ⟨first, names, hbody, hkept⟩ := exists_kept_bodyOf (isNetScheme scheme) _
    rw [hbody]
    exact .place ⟨hscheme, hnormal, hkept, htail default⟩ hfile fun _ => List.cons_ne_nil _ _

theorem exists_kept_fileUri (c : Cut) (host path : List Char)
    : ∃ shown first names query fragment,
        fileUri c host path
            = ⟨"file", some { host := String.ofList shown },
                .segments ((first :: names).map String.ofList), query, fragment⟩
          ∧ (shown = [] ∨ shown = host) ∧ (∀ name, name ∈ first :: names → Kept true name)
          ∧ (first = [] → names = []) ∧ IsTail true query fragment := by
  have hkept : ∀ name, name ∈ (Route.follow true {} (segments true path)).names → Kept true name :=
    Route.kept_follow (fun name hname => absurd hname List.not_mem_nil)
      fun piece => isPiece_of_mem_segments
  have hshown : ∃ shown, (shown = [] ∨ shown = host)
      ∧ (if (Route.follow true {} (segments true path)).drive = true then ""
          else String.ofList host) = String.ofList shown := by
    split
    · exact ⟨[], .inl rfl, rfl⟩
    · exact ⟨host, .inr rfl, rfl⟩
  obtain ⟨shown, hshown, heq⟩ := hshown
  have htail := isTail_withTail true c default
  rw [fileUri, heq]
  cases hnames : (Route.follow true {} (segments true path)).names.dropWhile List.isEmpty with
  | nil =>
    refine ⟨shown, [], [], _, _, rfl, hshown, fun name hname => ?_, fun _ => rfl, htail⟩
    rw [List.mem_singleton.1 hname]
    exact kept_nil true
  | cons first names =>
    refine ⟨shown, first, names, _, _, rfl, hshown, fun name hname => ?_, ?_, htail⟩
    · rw [← hnames] at hname
      exact hkept name (List.dropWhile_sublist _ |>.subset hname)
    · rintro rfl
      have hhead := List.head?_dropWhile_not List.isEmpty
        (Route.follow true {} (segments true path)).names
      rw [hnames] at hhead
      cases hhead

theorem exists_fileUri {c : Cut} {u : Uri} (h : file? c = some u)
    : ∃ host path, u = fileUri c host path
        ∧ (host = [] ∨ ((∃ cs, netHost? cs = some host) ∧ host ≠ "localhost".toList)) := by
  rw [file?] at h
  split at h
  · split at h
    · dsimp only at h
      split at h
      · cases h
        exact ⟨_, _, rfl, .inl rfl⟩
      · split at h
        · cases h
          exact ⟨_, _, rfl, .inl rfl⟩
        · obtain ⟨host, hhost, h⟩ := Option.bind_eq_some_iff.1 h
          split at h
          · cases h
            exact ⟨_, _, rfl, .inl rfl⟩
          · next hlocal =>
            cases h
            exact ⟨host, _, rfl, .inr ⟨⟨_, hhost⟩, hlocal⟩⟩
    · split at h <;> (cases h; exact ⟨_, _, rfl, .inl rfl⟩)
  · cases h
    exact ⟨_, _, rfl, .inl rfl⟩
  · cases h
    exact ⟨_, _, rfl, .inl rfl⟩

theorem isForeign_of_file? {c : Cut} {u : Uri} (hscheme : IsScheme "file".toList)
    (h : file? c = some u) (hpath : u.filePath? = none) : IsForeign u := by
  obtain ⟨host, path, rfl, hhost⟩ := exists_fileUri h
  obtain ⟨shown, first, names, query, fragment, heq, hshown, hkept, hfirst, htail⟩ :=
    exists_kept_fileUri c host path
  rw [heq] at hpath ⊢
  have hremote : shown ≠ [] ∧ shown ≠ "localhost".toList := by
    refine ⟨?_, ?_⟩ <;> (rintro rfl; exact absurd hpath (filePath?_ne_none rfl))
  obtain rfl := hshown.resolve_left hremote.1
  obtain ⟨⟨cs, hcs⟩, -⟩ := hhost.resolve_left hremote.1
  have hnormal : ({ host := String.ofList shown } : Authority).Normal "file" := by
    constructor
    · rintro user ⟨⟩
    · rw [String.toList_ofList]
      exact isHost_of_netHost? hcs
    · rintro n ⟨⟩
    · exact fun _ => ⟨rfl, rfl⟩
    · rintro ⟨⟩
  exact .remote ⟨⟨hscheme, hnormal, hkept, htail⟩, hremote.1, hremote.2, hfirst⟩

theorem not_mem_main_cut (cs : List Char) : '?' ∉ (cut cs).main ∧ '#' ∉ (cut cs).main := by
  have hpart : ∀ {before : List Char} {parts : List Char × List Char}, '#' ∉ before →
      Text.splitFirst? '?' before = some parts → '?' ∉ parts.1 ∧ '#' ∉ parts.1 := by
    rintro before ⟨front, back⟩ hbefore hmark
    obtain ⟨hquery, heq⟩ := Text.splitFirst?_some hmark
    refine ⟨hquery, fun hmem => hbefore ?_⟩
    rw [heq]
    exact List.mem_append_left _ hmem
  rw [cut]
  cases hhash : Text.splitFirst? '#' cs with
  | none =>
    have hcs := Text.splitFirst?_none hhash
    dsimp only
    cases hmark : Text.splitFirst? '?' cs with
    | none => exact ⟨Text.splitFirst?_none hmark, hcs⟩
    | some parts => exact hpart hcs hmark
  | some read =>
    obtain ⟨front, back⟩ := read
    have hbefore := (Text.splitFirst?_some hhash).1
    dsimp only
    cases hmark : Text.splitFirst? '?' front with
    | none => exact ⟨Text.splitFirst?_none hmark, hbefore⟩
    | some parts => exact hpart hbefore hmark

theorem main_cut {cs : List Char} (hquery : (cut cs).query = none)
    (hfragment : (cut cs).fragment = none) : (cut cs).main = cs := by
  rw [cut] at hquery hfragment ⊢
  cases hhash : Text.splitFirst? '#' cs with
  | none =>
    rw [hhash] at hquery hfragment
    dsimp only at hquery hfragment ⊢
    cases hmark : Text.splitFirst? '?' cs with
    | none => rfl
    | some parts =>
      rw [hmark] at hquery
      cases hquery
  | some parts =>
    rw [hhash] at hfragment
    dsimp only at hfragment
    cases hmark : Text.splitFirst? '?' parts.1 with
    | none =>
      rw [hmark] at hfragment
      cases hfragment
    | some parts =>
      rw [hmark] at hfragment
      cases hfragment

theorem last_encode {must : Char → Bool} {cs : List Char}
    (h : ∀ c, cs.getLast? = some c → 0x20 < c.toNat) {c : Char}
    (hc : (encode must cs).getLast? = some c) : 0x20 < c.toNat := by
  have hescapes : ∀ c, c ∈ escapes → 0x20 < c.toNat := by
    simp [escapes]
  cases cs using List.reverseRecOn with
  | nil => cases hc
  | append_singleton cs d =>
    have hd : encode must [d] ≠ [] := fun hnil => absurd (encode_eq_nil hnil) (List.cons_ne_nil _ _)
    rw [encode_append, List.getLast?_append_of_ne_nil _ hd] at hc
    obtain ⟨hmem, -⟩ | hescape := mem_encode (List.mem_of_mem_getLast? hc)
    · rw [List.mem_singleton.1 hmem]
      exact h d List.getLast?_concat
    · exact hescapes c hescape

theorem isForeign_of_parse? {text : String} {u : Uri} (h : parse? text = some u)
    (hpath : u.filePath? = none) : IsForeign u := by
  rw [parse?_eq] at h
  obtain ⟨⟨scheme, behind⟩, hread, h⟩ := Option.bind_eq_some_iff.1 h
  obtain ⟨hscheme, name, htext⟩ := isScheme_of_scheme? hread
  rw [behindScheme?] at h
  split at h
  · next hfile =>
    subst hfile
    exact isForeign_of_file? hscheme h hpath
  · next hfile =>
    split at h
    · exact isForeign_of_withAuthority? hscheme hfile h
    · next hnet =>
      split at h
      · exact isForeign_of_withAuthority? hscheme hfile h
      · next rest _ _ =>
        cases h
        obtain ⟨first, names, hbody, -⟩ := exists_kept_bodyOf false rest
        rw [hbody] at hpath
        exact absurd hpath (filePath?_ne_none rfl)
      · next hslash =>
        cases h
        -- A character of the encoded text was in the text, or is one that escapes are written with.
        have hmem : ∀ x, x ∉ (cut behind).main → x ∉ escapes →
            x ∉ encode isControl (cut behind).main := by
          intro x hmain hescape hx
          obtain ⟨hx, -⟩ | hx := mem_encode hx
          · exact hmain hx
          · exact hescape hx
        obtain ⟨hquery, hfragment⟩ := not_mem_main_cut behind
        refine .text ⟨hscheme, hfile, Bool.not_eq_true _ ▸ hnet,
          written_encode escapes_not_control _, ?_, hmem '?' hquery (by decide),
          hmem '#' hfragment (by decide), ?_, isTail_withTail false (cut behind) default⟩
        · intro hhead
          obtain ⟨rest, hencode⟩ := List.head?_eq_some_iff.1 hhead
          obtain ⟨rest', hmain, -⟩ := of_encode_cons hencode (by decide)
          exact hslash rest' hmain
        · intro hquery hfragment
          rw [main_cut (Option.map_eq_none_iff.1 hquery) (Option.map_eq_none_iff.1 hfragment)]
          have hlast : ∀ d, (clean text.toList).getLast? = some d → 0x20 < d.toNat :=
            fun _ => last_clean
          refine fun c hc => last_encode (fun d hd => hlast d ?_) hc
          have hne : behind ≠ [] := by
            intro hnil
            rw [hnil] at hd
            cases hd
          rw [htext, List.append_cons, List.getLast?_append_of_ne_nil _ hne]
          exact hd

/-! Writing and reading. -/

theorem IsScheme.first_append {name : List Char} (h : IsScheme name) (rest : List Char)
    : ∃ c, (name ++ rest).head? = some c ∧ c.isAlpha = true := by
  obtain ⟨c, more, rfl, hc⟩ := h.first
  exact ⟨c, rfl, hc⟩

theorem IsForeign.first_render {u : Uri} (h : IsForeign u)
    : ∃ c, u.render.toList.head? = some c ∧ c.isAlpha = true := by
  cases h with
  | text h =>
    rw [toList_render_opaqueText h.noSlash]
    exact h.isScheme.first_append _
  | place h =>
    rw [toList_render_hosted]
    exact h.isScheme.first_append _
  | remote h =>
    rw [toList_render_hosted]
    exact h.isScheme.first_append _

def Body.startsWithDrive : Body → Bool
  | .segments (name :: _) => isDrive name.toList
  | _ => false

/--
Is the host of a URI read as it is written? It is not read at all where the path of a file starts
with a drive.
-/
def KeepsHost (u : Uri) : Prop :=
  ∀ a, u.authority = some a →
    hostOf? u.scheme a.host.toList = some a.host.toList
      ∧ (u.scheme = "file" → u.body.startsWithDrive = false)

theorem parse?_render_iff {u : Uri} (h : IsForeign u)
    : parse? u.render = some u ↔ KeepsHost u := by
  -- The three forms of a foreign URI; only those with an authority have a host to keep.
  cases h with
  | text h =>
    refine ⟨fun _ a ha => ?_, fun _ => h.parse?_render⟩
    cases ha
  | @place scheme a names query fragment h hfile hnames =>
    rw [h.parse?_place hfile hnames]
    constructor
    · intro hread b hb
      cases hb
      obtain ⟨host, hhost, hread⟩ := Option.bind_eq_some_iff.1 hread
      split at hread
      · cases hread
      · rw [Option.some.injEq, Uri.mk.injEq, Option.some.injEq] at hread
        have hsame : String.ofList host = a.host := congrArg Authority.host hread.2.1
        dsimp only
        rw [hhost, ← hsame, String.toList_ofList]
        exact ⟨rfl, fun hscheme => absurd hscheme hfile⟩
    · intro hkeeps
      have hhost := (hkeeps a rfl).1
      dsimp only at hhost
      rw [hhost, Option.bind_some, if_neg, String.ofList_toList]
      rintro ⟨hnil, hothers⟩
      obtain ⟨huser, hservice⟩ := h.normal.empty hnil
      rw [huser, hservice] at hothers
      obtain hothers | hothers := hothers <;> cases hothers
  | @remote host first names query fragment h =>
    rw [h.parse?_render, behindScheme?, if_pos rfl, IsRemote.toList_render_host, h.file?_render]
    have hempty : ∀ {body body' : Body},
        (⟨"file", some {}, body, query, fragment⟩ : Uri)
          ≠ ⟨"file", some { host := String.ofList host }, body', query, fragment⟩ := by
      intro body body' heq
      rw [Uri.mk.injEq, Option.some.injEq] at heq
      have hhost : "" = String.ofList host := congrArg Authority.host heq.2.1
      rw [← String.toList_inj, String.toList_ofList (l := host)] at hhost
      exact h.named hhost.symm
    constructor
    · intro hread b hb
      cases hb
      obtain ⟨read, hhost, hread⟩ := Option.map_eq_some_iff.1 hread
      split at hread
      · exact absurd hread hempty
      · split at hread
        · exact absurd hread hempty
        · next hdrive =>
          rw [Uri.mk.injEq, Option.some.injEq] at hread
          have hsame : String.ofList read = String.ofList host := congrArg Authority.host hread.2.1
          rw [String.ofList_inj] at hsame
          subst hsame
          dsimp only
          rw [String.toList_ofList, hostOf?, if_pos (.inl rfl)]
          refine ⟨hhost, fun _ => ?_⟩
          rw [List.map_cons, Body.startsWithDrive, String.toList_ofList]
          exact Bool.not_eq_true _ ▸ hdrive
    · intro hkeeps
      obtain ⟨hhost, hdrive⟩ := hkeeps _ rfl
      have hdrive := hdrive rfl
      dsimp only at hhost
      rw [String.toList_ofList, hostOf?, if_pos (.inl rfl)] at hhost
      rw [List.map_cons, Body.startsWithDrive, String.toList_ofList] at hdrive
      rw [hhost, Option.map_some, if_neg h.remote, if_neg (Bool.not_eq_true _ ▸ hdrive)]

end DeprecatedUse.Uri
