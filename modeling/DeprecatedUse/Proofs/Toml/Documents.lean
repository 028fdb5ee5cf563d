import DeprecatedUse.Proofs.Text.Splitting
import DeprecatedUse.Toml.Parser
import Mathlib

/-!
This module contains documents that are written out: sections with headers, and in them lines with
keys and values. Such a document is read as the table of its sections. The values are strings in
quotes and arrays of them; they are read up to their end whatever follows, as long as no quote
follows a string.
-/

namespace DeprecatedUse.Toml

open DeprecatedUse.Toml.Scanner DeprecatedUse.Toml.Parser

/-! Blanks and line breaks. -/

structure IsStart (c : Char) : Prop where
  blank : isBlank c = false
  comment : c ≠ '#'
  lineFeed : c ≠ '\n'
  carriageReturn : c ≠ '\r'

theorem skipBlanks_of_not_blank {c : Char} (h : isBlank c = false) (cs : List Char)
    : skipBlanks (c :: cs) = c :: cs :=
  List.dropWhile_cons_of_neg (Bool.eq_false_iff.1 h)

theorem skipLines_of_start {c : Char} (h : IsStart c) (cs : List Char)
    : skipLines (c :: cs) = c :: cs := by
  have hcomment : skipComment (c :: cs) = c :: cs := by
    rw [skipComment]
    intro rest hrest
    exact h.comment (List.cons.inj hrest).1
  have hnewline : newline? (c :: cs) = none := by
    rw [newline?]
    · intro rest hrest
      exact h.lineFeed (List.cons.inj hrest).1
    · intro rest hrest
      exact h.carriageReturn (List.cons.inj hrest).1
  rw [skipLines, h.blank, if_neg Bool.false_ne_true, hcomment, hnewline]

theorem skipLines_lineFeed (cs : List Char) : skipLines ('\n' :: cs) = skipLines cs := by
  have hblank : isBlank '\n' = false := rfl
  have hnewline : newline? (skipComment ('\n' :: cs)) = some cs := rfl
  rw [skipLines, hblank, if_neg Bool.false_ne_true, hnewline]
  exact if_pos (Nat.lt_succ_self _)

theorem skipLines_blank {c : Char} (h : isBlank c = true) (cs : List Char)
    : skipLines (c :: cs) = skipLines cs := by
  rw [skipLines, if_pos h]

/-! Strings in quotes. -/

/--
A character that a string in quotes may hold as it is.
-/
structure IsPlain (c : Char) : Prop where
  quote : c ≠ '"'
  backslash : c ≠ '\\'
  printable : isPrintable c = true

theorem basic?_append {cs : List Char} (h : ∀ c ∈ cs, IsPlain c) {fuel : Nat}
    (hfuel : cs.length < fuel) (done rest : List Char)
    : basic? fuel done (cs ++ '"' :: rest) = some (String.ofList (done.reverse ++ cs), rest) := by
  induction cs generalizing fuel done with
  | nil =>
    cases fuel with
    | zero => cases hfuel
    | succ fuel => rw [List.nil_append, basic?, List.append_nil]
  | cons c cs ih =>
    obtain ⟨hc, hcs⟩ := List.forall_mem_cons.1 h
    cases fuel with
    | zero => cases hfuel
    | succ fuel =>
      rw [List.length_cons, Nat.succ_lt_succ_iff] at hfuel
      rw [List.cons_append, basic?, if_pos hc.printable, ih hcs hfuel, List.reverse_cons,
        List.append_assoc, List.singleton_append]
      · exact hc.quote
      · exact hc.backslash

def quoted (cs : List Char) : List Char :=
  '"' :: cs ++ ['"']

theorem quoted_append (cs rest : List Char)
    : quoted cs ++ rest = '"' :: (cs ++ '"' :: rest) := by
  rw [quoted, List.append_assoc]
  rfl

theorem string?_quoted {cs : List Char} (h : ∀ c ∈ cs, IsPlain c) {next : Char} (hnext : next ≠ '"')
    (rest : List Char)
    : string? (quoted cs ++ next :: rest) = some (String.ofList cs, next :: rest) := by
  have hfuel : cs.length < (cs ++ '"' :: next :: rest).length + 1 :=
    Nat.lt_succ_of_le (List.length_append ▸ Nat.le_add_right _ _)
  have hread := basic?_append h hfuel [] (next :: rest)
  rw [quoted_append, string?, hread]
  · rfl
  · -- Three quotes would open a string over several lines: two are there only for an empty string.
    intro after hafter
    cases cs with
    | nil => exact hnext (List.cons.inj (List.cons.inj hafter).2).1
    | cons c cs => exact (List.forall_mem_cons.1 h).1.quote (List.cons.inj hafter).1

theorem value?_quoted {cs : List Char} (h : ∀ c ∈ cs, IsPlain c) {next : Char} (hnext : next ≠ '"')
    (depth : Nat) (rest : List Char)
    : value? (depth + 1) ('"' :: (cs ++ '"' :: next :: rest))
        = some (.string (String.ofList cs), next :: rest) := by
  have hscalar : value? (depth + 1) ('"' :: (cs ++ '"' :: next :: rest))
      = (string? ('"' :: (cs ++ '"' :: next :: rest))).map fun read =>
          (.string read.1, read.2) := rfl
  rw [hscalar, ← quoted_append, string?_quoted h hnext]
  rfl

/-! Arrays of strings. -/

def itemLines (texts : List (List Char)) : List Char :=
  texts.flatMap fun cs => "    ".toList ++ quoted cs ++ [',', '\n']

def stringArray : List (List Char) → List Char
  | [] => ['[', ']']
  | [cs] => '[' :: quoted cs ++ [']']
  | texts => '[' :: '\n' :: itemLines texts ++ [']']

theorem exists_stringArray (texts : List (List Char)) : ∃ cs, stringArray texts = '[' :: cs := by
  match texts with
  | [] => exact ⟨_, rfl⟩
  | [cs] => exact ⟨_, rfl⟩
  | cs :: next :: texts => exact ⟨_, rfl⟩

def arrayOf (texts : List (List Char)) : Value :=
  .array (texts.map fun cs => .string (String.ofList cs))

theorem isStart_quote : IsStart '"' := by
  constructor <;> decide

theorem isStart_comma : IsStart ',' := by
  constructor <;> decide

theorem isStart_bracket : IsStart ']' := by
  constructor <;> decide

section

variable {value? : Scan Value} {cs rest : List Char} {fuel : Nat} {done : List Value}

theorem items?_close (h : skipLines cs = ']' :: rest)
    : items? value? (fuel + 1) done cs = some (.array done.reverse, rest) := by
  rw [items?, h]
  rfl

variable {item : Value} {text : List Char}

theorem items?_comma (h : skipLines cs = '"' :: text)
    (hitem : value? ('"' :: text) = some (item, ',' :: rest))
    : items? value? (fuel + 1) done cs = items? value? fuel (item :: done) rest := by
  rw [items?]
  split
  · next after hafter => exact absurd (List.cons.inj (h.symm.trans hafter)).1 (by decide)
  · rw [h, hitem]
    dsimp only
    rw [skipLines_of_start isStart_comma]
    rfl

theorem items?_last (h : skipLines cs = '"' :: text)
    (hitem : value? ('"' :: text) = some (item, ']' :: rest))
    : items? value? (fuel + 1) done cs = some (.array (item :: done).reverse, rest) := by
  rw [items?]
  split
  · next after hafter => exact absurd (List.cons.inj (h.symm.trans hafter)).1 (by decide)
  · rw [h, hitem]
    dsimp only
    rw [skipLines_of_start isStart_bracket]
    rfl

end

theorem items?_lines {texts : List (List Char)} (h : ∀ cs ∈ texts, ∀ c ∈ cs, IsPlain c)
    {fuel : Nat} (hfuel : texts.length < fuel) (depth : Nat) (done : List Value) (rest : List Char)
    : items? (value? (depth + 1)) fuel done ('\n' :: (itemLines texts ++ ']' :: rest))
        = some (.array (done.reverse ++ texts.map fun cs => Value.string (String.ofList cs)),
          rest) := by
  -- One round of the loop for each line, and one for the closing bracket.
  induction texts generalizing fuel done with
  | nil =>
    cases fuel with
    | zero => cases hfuel
    | succ fuel =>
      have hclose : skipLines ('\n' :: (itemLines [] ++ ']' :: rest)) = ']' :: rest := by
        rw [skipLines_lineFeed]
        exact skipLines_of_start isStart_bracket rest
      rw [items?_close hclose, List.map_nil, List.append_nil]
  | cons cs texts ih =>
    obtain ⟨hcs, htexts⟩ := List.forall_mem_cons.1 h
    cases fuel with
    | zero => cases hfuel
    | succ fuel =>
      rw [List.length_cons, Nat.succ_lt_succ_iff] at hfuel
      have hline : itemLines (cs :: texts) ++ ']' :: rest
          = ' ' :: ' ' :: ' ' :: ' ' ::
            (quoted cs ++ ',' :: '\n' :: (itemLines texts ++ ']' :: rest)) := by
        simp [itemLines]
      have hskip : skipLines ('\n' :: (itemLines (cs :: texts) ++ ']' :: rest))
          = '"' :: (cs ++ '"' :: ',' :: '\n' :: (itemLines texts ++ ']' :: rest)) := by
        rw [skipLines_lineFeed, hline, skipLines_blank rfl, skipLines_blank rfl,
          skipLines_blank rfl, skipLines_blank rfl, quoted_append,
          skipLines_of_start isStart_quote]
      rw [items?_comma hskip (value?_quoted hcs (by decide) depth _), ih htexts hfuel,
        List.reverse_cons, List.append_assoc]
      rfl

theorem length_le_itemLines (texts : List (List Char))
    : texts.length ≤ (itemLines texts).length := by
  induction texts with
  | nil => exact Nat.le_refl 0
  | cons cs texts ih =>
    simp only [itemLines, List.flatMap_cons, List.length_append, List.length_cons] at ih ⊢
    omega

theorem value?_stringArray {texts : List (List Char)} (h : ∀ cs ∈ texts, ∀ c ∈ cs, IsPlain c)
    (depth : Nat) (rest : List Char)
    : value? (depth + 2) (stringArray texts ++ rest) = some (arrayOf texts, rest) := by
  match texts with
  | [] => exact items?_close (skipLines_of_start isStart_bracket rest)
  | [cs] =>
    have htext : stringArray [cs] ++ rest = '[' :: (quoted cs ++ ']' :: rest) := by
      rw [stringArray, List.cons_append, List.cons_append, List.append_assoc]
      rfl
    have hskip : skipLines (quoted cs ++ ']' :: rest) = '"' :: (cs ++ '"' :: ']' :: rest) := by
      rw [quoted_append, skipLines_of_start isStart_quote]
    rw [htext]
    exact items?_last hskip (value?_quoted (h cs List.mem_cons_self) (by decide) depth rest)
  | cs :: next :: texts =>
    have htext : stringArray (cs :: next :: texts) ++ rest
        = '[' :: '\n' :: (itemLines (cs :: next :: texts) ++ ']' :: rest) := by
      simp only [stringArray, List.cons_append, List.append_assoc, List.nil_append]
    have hfuel : (cs :: next :: texts).length
        < ('\n' :: (itemLines (cs :: next :: texts) ++ ']' :: rest)).length + 1 := by
      have hlength := length_le_itemLines (cs :: next :: texts)
      rw [List.length_cons (a := '\n'), List.length_append]
      omega
    rw [htext]
    exact items?_lines h hfuel depth [] rest

/-! Keys. -/

structure IsBare (key : String) : Prop where
  nonempty : key ≠ ""
  bare : ∀ c ∈ key.toList, isBareKey c = true

instance (key : String) : Decidable (IsBare key) :=
  decidable_of_iff (key ≠ "" ∧ key.toList.all isBareKey = true)
    ⟨fun h => ⟨h.1, List.all_eq_true.1 h.2⟩, fun h => ⟨h.1, List.all_eq_true.2 h.2⟩⟩

theorem ne_of_bare {c d : Char} (hc : isBareKey c = true) (hd : isBareKey d = false) : c ≠ d := by
  rintro rfl
  rw [hc] at hd
  cases hd

theorem isStart_of_bare {c : Char} (h : isBareKey c = true) : IsStart c where
  blank := by
    rw [isBlank, Bool.or_eq_false_iff, beq_eq_false_iff_ne, beq_eq_false_iff_ne]
    exact ⟨ne_of_bare h (by decide), ne_of_bare h (by decide)⟩
  comment := ne_of_bare h (by decide)
  lineFeed := ne_of_bare h (by decide)
  carriageReturn := ne_of_bare h (by decide)

variable {key : String}

theorem IsBare.exists_cons (h : IsBare key)
    : ∃ c cs, key.toList = c :: cs ∧ isBareKey c = true := by
  obtain ⟨c, cs, hcs⟩ := List.exists_cons_of_ne_nil (mt String.toList_eq_nil_iff.1 h.nonempty)
  exact ⟨c, cs, hcs, h.bare c (hcs ▸ List.mem_cons_self)⟩

theorem simpleKey?_bare (h : IsBare key) {next : Char} (hnext : isBareKey next = false)
    (rest : List Char)
    : simpleKey? (key.toList ++ next :: rest) = some (key, next :: rest) := by
  obtain ⟨c, cs, hcs, hc⟩ := h.exists_cons
  have htake : (key.toList ++ next :: rest).takeWhile isBareKey = key.toList := by
    rw [List.takeWhile_append_of_pos h.bare,
      List.takeWhile_cons_of_neg (by rw [hnext]; exact Bool.false_ne_true), List.append_nil]
  have hdrop : (key.toList ++ next :: rest).dropWhile isBareKey = next :: rest := by
    rw [List.dropWhile_append_of_pos h.bare,
      List.dropWhile_cons_of_neg (by rw [hnext]; exact Bool.false_ne_true)]
  rw [simpleKey?]
  · rw [htake, hdrop, hcs]
    dsimp only
    rw [← hcs, String.ofList_toList]
  · intro after hafter
    rw [hcs] at hafter
    exact ne_of_bare hc (by decide) (List.cons.inj hafter).1
  · intro after hafter
    rw [hcs] at hafter
    exact ne_of_bare hc (by decide) (List.cons.inj hafter).1

theorem skipBlanks_bare (h : IsBare key) (rest : List Char)
    : skipBlanks (key.toList ++ rest) = key.toList ++ rest := by
  obtain ⟨c, cs, hcs, hc⟩ := h.exists_cons
  rw [hcs, List.cons_append, skipBlanks_of_not_blank (isStart_of_bare hc).blank]

theorem key?_bare (h : IsBare key) {next mark : Char} {rest after : List Char}
    (hnext : isBareKey next = false) (hmark : mark ≠ '.')
    (hskip : skipBlanks (next :: rest) = mark :: after)
    : key? (key.toList ++ next :: rest) = some ([key], mark :: after) := by
  have hfrom : keyFrom? ((key.toList ++ next :: rest).length + 1) [] (key.toList ++ next :: rest)
      = some ([key], mark :: after) := by
    rw [keyFrom?, skipBlanks_bare h, simpleKey?_bare h hnext]
    dsimp only [bind, Option.bind]
    rw [hskip]
    split
    · next after' hdot => exact absurd (List.cons.inj hdot).1 hmark
    · rfl
  rw [key?, hfrom]
  rfl

/-! Lines. -/

structure Entry where
  key : String
  text : List Char
  value : Value

namespace Entry

def line (e : Entry) : List Char :=
  e.key.toList ++ ' ' :: '=' :: ' ' :: (e.text ++ ['\n'])

structure IsReadable (e : Entry) : Prop where
  bare : IsBare e.key
  start : ∃ c cs, e.text = c :: cs ∧ isBlank c = false
  read : ∀ rest, value? nestingLimit (e.text ++ '\n' :: rest) = some (e.value, '\n' :: rest)

end Entry

variable {e : Entry}

theorem pair?_line (h : e.IsReadable) (rest : List Char)
    : pair? (value? nestingLimit) (e.line ++ rest)
        = some (([], e.key, e.value), '\n' :: rest) := by
  have hline : e.line ++ rest
      = e.key.toList ++ ' ' :: '=' :: ' ' :: (e.text ++ '\n' :: rest) := by
    simp [Entry.line]
  obtain ⟨c, cs, hcs, hc⟩ := h.start
  have hskip : skipBlanks (' ' :: (e.text ++ '\n' :: rest)) = e.text ++ '\n' :: rest := by
    rw [hcs, List.cons_append]
    exact skipBlanks_of_not_blank hc _
  rw [pair?, hline, key?_bare h.bare (by decide) (by decide) rfl]
  change (value? nestingLimit (skipBlanks (' ' :: (e.text ++ '\n' :: rest)))).bind _ = _
  rw [hskip, h.read]
  rfl

theorem document?_line (h : e.IsReadable) (fuel : Nat) (t : Tree) (header : List String)
    (rest : List Char)
    : document? (fuel + 1) t header (e.line ++ rest)
        = (Tree.along? false (Tree.insert? [] e.key e.value) header t).bind
            fun t => document? fuel t header rest := by
  obtain ⟨c, cs, hcs, hc⟩ := h.bare.exists_cons
  have hpair := pair?_line h rest
  have hskip : skipBlanks (e.line ++ rest) = e.line ++ rest := by
    rw [Entry.line, List.append_assoc, skipBlanks_bare h.bare]
  have hline : ∃ more, e.line ++ rest = c :: more := by
    rw [Entry.line, hcs]
    exact ⟨_, rfl⟩
  obtain ⟨more, hmore⟩ := hline
  rw [document?, hskip]
  rw [hmore] at hpair ⊢
  have hstart := isStart_of_bare hc
  split
  · next hnil => cases hnil
  · next h => exact absurd (List.cons.inj h).1 (ne_of_bare hc (by decide))
  · next h => exact absurd (List.cons.inj h).1 (ne_of_bare hc (by decide))
  · next c' more' h =>
    obtain ⟨rfl, rfl⟩ := List.cons.inj h
    rw [if_neg]
    · rw [hpair]
      rfl
    · have hcomment := hstart.comment
      have hlineFeed := hstart.lineFeed
      have hcarriageReturn := hstart.carriageReturn
      simp [hcomment, hlineFeed, hcarriageReturn]

theorem document?_lineFeed (fuel : Nat) (t : Tree) (header : List String) (rest : List Char)
    : document? (fuel + 1) t header ('\n' :: rest) = document? fuel t header rest :=
  rfl

def headerLine (name : String) : List Char :=
  '[' :: (name.toList ++ [']', '\n'])

theorem document?_header {name : String} (h : IsBare name) (fuel : Nat) (t : Tree)
    (header : List String) (rest : List Char)
    : document? (fuel + 1) t header (headerLine name ++ rest)
        = (Tree.openTable? [] name t).bind fun t => document? fuel t [name] rest := by
  obtain ⟨c, cs, hcs, hc⟩ := h.exists_cons
  have hline : headerLine name ++ rest = '[' :: (name.toList ++ ']' :: '\n' :: rest) := by
    simp [headerLine]
  have hkey : headerKey? [']'] (name.toList ++ ']' :: '\n' :: rest) = some ([name], rest) := by
    rw [headerKey?, key?_bare h (by decide) (by decide) (skipBlanks_of_not_blank (by decide) _)]
    rfl
  have hskip : skipBlanks (headerLine name ++ rest)
      = '[' :: (name.toList ++ ']' :: '\n' :: rest) := by
    rw [hline, skipBlanks_of_not_blank (by decide)]
  rw [document?, hskip]
  split
  · next hnil => cases hnil
  · next hbrackets =>
    rw [hcs] at hbrackets
    exact absurd (List.cons.inj (List.cons.inj hbrackets).2).1 (ne_of_bare hc (by decide))
  · next rest' hbracket =>
    rw [← (List.cons.inj hbracket).2, hkey]
    rfl
  · next hbracket hother => exact (hbracket (List.cons.inj hother).1.symm).elim

/-! Tables. -/

namespace Tree

variable {t : Tree}

theorem lookup_of_not_mem {fields : List (String × Node)} (h : key ∉ fields.map Prod.fst)
    : fields.lookup key = none := by
  rw [List.lookup_eq_none_iff]
  intro field hfield
  rw [bne_iff_ne]
  rintro rfl
  exact h (List.mem_map_of_mem hfield)

theorem set_of_not_mem (h : key ∉ t.fields.map Prod.fst) (node : Node)
    : t.set key node = { t with fields := t.fields ++ [(key, node)] } := by
  rw [set, if_neg]
  rw [List.any_eq_true]
  rintro ⟨field, hfield, heq⟩
  exact h (List.mem_map.2 ⟨field, hfield, beq_iff_eq.1 heq⟩)

theorem set_last {fields : List (String × Node)} (h : key ∉ fields.map Prod.fst) (old node : Node)
    : set { fields := fields ++ [(key, old)] } key node
        = { fields := fields ++ [(key, node)] } := by
  rw [set, if_pos]
  · rw [List.map_append, List.map_congr_left (l := fields) (g := id), List.map_id,
      List.map_singleton]
    · simp
    · rintro ⟨k, n⟩ hfield
      refine if_neg fun heq => h (List.mem_map.2 ⟨(k, n), hfield, beq_iff_eq.1 heq⟩)
  · simp

def ofTables (tables : List (String × List (String × Value))) : Tree where
  fields := tables.map fun (name, fields) =>
    (name, .table false false (fields.map fun (key, value) => (key, .leaf value)))

variable {tables : List (String × List (String × Value))} {name : String}
  {fields : List (String × Value)} {value : Value}

theorem not_mem_ofTables (h : name ∉ tables.map Prod.fst)
    : name ∉ (ofTables tables).fields.map Prod.fst := by
  rw [ofTables, List.map_map]
  exact h

theorem openTable?_ofTables (h : name ∉ tables.map Prod.fst)
    : openTable? [] name (ofTables tables) = some (ofTables (tables ++ [(name, [])])) := by
  rw [openTable?, along?, lookup_of_not_mem (not_mem_ofTables h)]
  dsimp only
  rw [set_of_not_mem (not_mem_ofTables h), ofTables, ofTables, List.map_append]
  rfl

theorem insert?_nil (hdotted : t.dotted = false) (h : key ∉ t.fields.map Prod.fst)
    : insert? [] key value t = some { t with fields := t.fields ++ [(key, .leaf value)] } := by
  obtain ⟨implicit, dotted, fields⟩ := t
  subst hdotted
  rw [insert?, along?, lookup_of_not_mem h, set_of_not_mem h]
  rfl

theorem ofTables_concat (tables : List (String × List (String × Value))) (name : String)
    (fields : List (String × Value))
    : ofTables (tables ++ [(name, fields)])
        = { fields := (ofTables tables).fields ++ [(name, .table false false
            (fields.map fun (key, value) => (key, .leaf value)))] } := by
  rw [ofTables, List.map_append]
  rfl

theorem insert?_ofTables (hname : name ∉ tables.map Prod.fst) (hkey : key ∉ fields.map Prod.fst)
    : along? false (insert? [] key value) [name] (ofTables (tables ++ [(name, fields)]))
        = some (ofTables (tables ++ [(name, fields ++ [(key, value)])])) := by
  have hleaves : key ∉ (fields.map fun (key, value) => (key, Node.leaf value)).map Prod.fst := by
    rw [List.map_map]
    exact hkey
  rw [ofTables_concat, ofTables_concat, List.map_append]
  generalize fields.map (fun (key, value) => (key, Node.leaf value)) = leaves at hleaves ⊢
  have hlookup : ((ofTables tables).fields ++ [(name, Node.table false false leaves)]).lookup name
      = some (.table false false leaves) := by
    rw [List.lookup_append, lookup_of_not_mem (not_mem_ofTables hname), Option.none_or,
      List.lookup_cons_self]
  have hinsert : insert? [] key value ⟨false, false, leaves⟩
      = some ⟨false, false, leaves ++ [(key, Node.leaf value)]⟩ := insert?_nil rfl hleaves
  rw [along?, hlookup]
  dsimp only
  rw [Bool.false_and, if_neg Bool.false_ne_true, along?, hinsert, Option.map_some,
    set_last (not_mem_ofTables hname)]
  rfl

theorem fieldsOf_map (fields : List (String × Value))
    : fieldsOf (fields.map fun (key, value) => (key, .leaf value)) = fields := by
  induction fields with
  | nil => rw [List.map_nil, fieldsOf]
  | cons field fields ih => rw [List.map_cons, fieldsOf, ih, valueOf]

theorem value_ofTables (tables : List (String × List (String × Value)))
    : (ofTables tables).value
        = .table (tables.map fun (name, fields) => (name, .table fields)) := by
  rw [value, ofTables]
  congr 1
  induction tables with
  | nil => rw [List.map_nil, fieldsOf, List.map_nil]
  | cons table tables ih =>
    rw [List.map_cons, fieldsOf, valueOf, fieldsOf_map, List.map_cons]
    exact congrArg _ ih

end Tree

/-! Sections. -/

def Entry.field (e : Entry) : String × Value :=
  (e.key, e.value)

structure Section where
  name : String
  entries : List Entry

namespace Section

def text (s : Section) : List Char :=
  headerLine s.name ++ s.entries.flatMap Entry.line

def table (s : Section) : String × List (String × Value) :=
  (s.name, s.entries.map Entry.field)

structure IsReadable (s : Section) : Prop where
  bare : IsBare s.name
  entries : ∀ e ∈ s.entries, e.IsReadable
  nodup : (s.entries.map Entry.key).Nodup

end Section

variable {tables : List (String × List (String × Value))} {name : String} {rest : List Char}
  {fuel : Nat}

theorem exists_document?_entries {entries : List Entry} {done : List (String × Value)}
    (h : ∀ e ∈ entries, e.IsReadable) (hname : name ∉ tables.map Prod.fst)
    (hnodup : (done.map Prod.fst ++ entries.map Entry.key).Nodup)
    (hfuel : (entries.flatMap Entry.line ++ rest).length < fuel)
    : ∃ left, rest.length < left
        ∧ document? fuel (Tree.ofTables (tables ++ [(name, done)])) [name]
            (entries.flatMap Entry.line ++ rest)
          = document? left (Tree.ofTables (tables ++ [(name, done ++ entries.map Entry.field)]))
            [name] rest := by
  induction entries generalizing done fuel with
  | nil => exact ⟨fuel, hfuel, by rw [List.map_nil, List.append_nil]; rfl⟩
  | cons e entries ih =>
    obtain ⟨he, hentries⟩ := List.forall_mem_cons.1 h
    have hkey : e.key ∉ done.map Prod.fst := by
      intro hmem
      exact (List.nodup_append.1 hnodup).2.2 e.key hmem e.key List.mem_cons_self rfl
    have hnodup' : ((done ++ [e.field]).map Prod.fst ++ entries.map Entry.key).Nodup := by
      rw [List.map_append, List.append_assoc]
      exact hnodup
    cases fuel with
    | zero => cases hfuel
    | succ fuel =>
      have hfuel' : (entries.flatMap Entry.line ++ rest).length < fuel := by
        rw [List.flatMap_cons, List.append_assoc, List.length_append, Entry.line,
          List.length_append, List.length_cons] at hfuel
        omega
      obtain ⟨left, hleft, hread⟩ := ih hentries hnodup' hfuel'
      refine ⟨left, hleft, ?_⟩
      rw [List.flatMap_cons, List.append_assoc, document?_line he,
        Tree.insert?_ofTables hname hkey, Option.bind_some]
      rw [List.append_assoc] at hread
      exact hread

theorem exists_document?_section {s : Section} (h : s.IsReadable)
    (hname : s.name ∉ tables.map Prod.fst) (header : List String)
    (hfuel : (s.text ++ rest).length < fuel)
    : ∃ left, rest.length < left
        ∧ document? fuel (Tree.ofTables tables) header (s.text ++ rest)
          = document? left (Tree.ofTables (tables ++ [s.table])) [s.name] rest := by
  cases fuel with
  | zero => cases hfuel
  | succ fuel =>
    rw [Section.text, List.append_assoc] at hfuel ⊢
    have hfuel' : (s.entries.flatMap Entry.line ++ rest).length < fuel := by
      rw [List.length_append, headerLine, List.length_cons] at hfuel
      omega
    have hkeys : (([] : List (String × Value)).map Prod.fst ++ s.entries.map Entry.key).Nodup :=
      h.nodup
    obtain ⟨left, hleft, hread⟩ := exists_document?_entries h.entries hname hkeys hfuel'
    refine ⟨left, hleft, ?_⟩
    rw [document?_header h.bare, Tree.openTable?_ofTables hname, Option.bind_some, hread]
    rfl

theorem document?_sections {sections : List Section} (h : ∀ s ∈ sections, s.IsReadable)
    (hnodup : (tables.map Prod.fst ++ sections.map Section.name).Nodup) (header : List String)
    (hfuel : (sections.flatMap (['\n'] ++ ·.text)).length < fuel)
    : document? fuel (Tree.ofTables tables) header (sections.flatMap (['\n'] ++ ·.text))
        = some (Tree.ofTables (tables ++ sections.map Section.table)) := by
  induction sections generalizing tables header fuel with
  | nil =>
    cases fuel with
    | zero => cases hfuel
    | succ fuel =>
      rw [List.map_nil, List.append_nil]
      rfl
  | cons s sections ih =>
    obtain ⟨hs, hsections⟩ := List.forall_mem_cons.1 h
    have hname : s.name ∉ tables.map Prod.fst := by
      intro hmem
      exact (List.nodup_append.1 hnodup).2.2 s.name hmem s.name List.mem_cons_self rfl
    have hnodup' : ((tables ++ [s.table]).map Prod.fst ++ sections.map Section.name).Nodup := by
      rw [List.map_append, List.append_assoc]
      exact hnodup
    cases fuel with
    | zero => cases hfuel
    | succ fuel =>
      rw [List.flatMap_cons, List.append_assoc, List.singleton_append, List.length_cons,
        Nat.succ_lt_succ_iff] at hfuel
      obtain ⟨left, hleft, hread⟩ := exists_document?_section hs hname header hfuel
      rw [List.flatMap_cons, List.append_assoc, List.singleton_append, document?_lineFeed, hread,
        ih hsections hnodup' _ hleft, List.append_assoc]
      rfl

def documentText (sections : List Section) : String :=
  String.ofList (Text.join ['\n'] (sections.map Section.text))

theorem parse?_documentText {sections : List Section} (h : ∀ s ∈ sections, s.IsReadable)
    (hnodup : (sections.map Section.name).Nodup)
    : parse? (documentText sections)
        = some (.table (sections.map fun s => (s.name, .table (s.entries.map Entry.field)))) := by
  cases sections with
  | nil =>
    rw [parse?, documentText, String.toList_ofList]
    rfl
  | cons s sections =>
    obtain ⟨hs, hsections⟩ := List.forall_mem_cons.1 h
    have htext : Text.join ['\n'] ((s :: sections).map Section.text)
        = s.text ++ sections.flatMap (['\n'] ++ ·.text) := by
      rw [List.map_cons, Text.join_cons, List.flatMap_map]
    have hfirst : s.name ∉ ([] : List (String × List (String × Value))).map Prod.fst :=
      List.not_mem_nil
    obtain ⟨left, hleft, hread⟩ := exists_document?_section hs hfirst []
      (Nat.lt_add_one (s.text ++ sections.flatMap (['\n'] ++ ·.text)).length)
    -- The document begins with the bracket of a header, so with no byte order mark.
    have hparse : parse? (documentText (s :: sections))
        = (document? ((s.text ++ sections.flatMap (['\n'] ++ ·.text)).length + 1)
            (Tree.ofTables []) [] (s.text ++ sections.flatMap (['\n'] ++ ·.text))).map
          Tree.value := by
      rw [parse?, documentText, String.toList_ofList, htext]
      rfl
    have hnames : ([s.table].map Prod.fst ++ sections.map Section.name).Nodup := hnodup
    have hsection := document?_sections hsections hnames [s.name] hleft
    rw [hparse, hread, List.nil_append, hsection, Option.map_some, Tree.value_ofTables,
      List.map_append, List.map_map]
    rfl

end DeprecatedUse.Toml
