import DeprecatedUse.Java.TypeNames
import DeprecatedUse.Proofs.Text.Splitting

/-!
This module contains what the type names of a unit hold: for an imported name the path of its last
import, for a declared name the full name of a type. A name without dots is looked for among the
declared types before the imports, the head of a name with dots among the imports before the
declared types, so that the two part where an imported type and a declared one share a name.
-/

namespace DeprecatedUse.Java

def Import.binds (i : Import) (name : String) : Bool :=
  !i.isStatic && !i.wildcard && lastSegment i.path == name

namespace TypeNames

/--
The import that counts for a name: the last one that binds it.
-/
def lastImport? (imports : List Import) (name : String) : Option Import :=
  imports.reverse.find? (·.binds name)

def IsDeclared (package : Option String) (types : List (String × String)) (name : String) : Prop :=
  ∃ type ∈ types, type.1 = name ∨ type.2 = qualify (package.getD "") name

/-! One import and one type more. -/

theorem lookup_cons_ite (key full name : String) (table : List (String × String))
    : ((key, full) :: table).lookup name = if key = name then some full else table.lookup name := by
  by_cases h : key = name
  · simp [h]
  · have hbeq : (name == key) = false := beq_false_of_ne (Ne.symm h)
    simp [List.lookup_cons, h, hbeq]

theorem addImport_eq (names : TypeNames) (i : Import)
    : names.addImport i
        =
      { names with
        imported := (names.addImport i).imported
        wildcards := (names.addImport i).wildcards } := by
  unfold addImport
  split
  · rfl
  · split <;> rfl

theorem wildcards_addImport (names : TypeNames) (i : Import)
    : (names.addImport i).wildcards
        =
      names.wildcards ++ ([i].filter fun i => !i.isStatic && i.wildcard).map Import.path := by
  unfold addImport
  split
  · next hstatic => simp [hstatic]
  · next hstatic =>
    split
    · next hwildcard => simp [hstatic, hwildcard]
    · next hwildcard => simp [hwildcard]

theorem lookup_addImport (names : TypeNames) (i : Import) (name : String)
    : (names.addImport i).imported.lookup name
        =
      if i.binds name then some i.path else names.imported.lookup name := by
  unfold addImport
  split
  · next hstatic => simp [Import.binds, hstatic]
  · next hstatic =>
    split
    · next hwildcard => simp [Import.binds, hwildcard]
    · next hwildcard =>
      rw [lookup_cons_ite]
      simp [Import.binds, hstatic, hwildcard]

theorem relativeName?_eq_some_iff {package qualifiedName name : String}
    : relativeName? package qualifiedName = some name ↔ qualifiedName = qualify package name := by
  have hprefix : ∀ start : String,
      (start.toList.isPrefixOf? qualifiedName.toList).map String.ofList = some name
        ↔ qualifiedName = start ++ name := by
    intro start
    rw [← String.toList_inj, String.toList_append, Option.map_eq_some_iff]
    simp only [List.isPrefixOf?_eq_some_iff_append_eq]
    constructor
    · rintro ⟨rest, hrest, rfl⟩
      rw [String.toList_ofList]
      exact hrest.symm
    · intro happend
      exact ⟨name.toList, happend.symm, String.ofList_toList⟩
  rw [relativeName?, hprefix, qualify]
  split
  · next hpackage => rw [hpackage, String.empty_append]
  · rfl

theorem addType_eq (names : TypeNames) (simple qualifiedName : String)
    : names.addType simple qualifiedName
        =
      { names with declared := (names.addType simple qualifiedName).declared } := by
  rw [addType]
  cases relativeName? names.package qualifiedName <;> rfl

theorem lookup_addType (names : TypeNames) (simple qualifiedName name : String)
    : (names.addType simple qualifiedName).declared.lookup name
        =
      if qualifiedName = qualify names.package name then
        some qualifiedName
      else
        (names.declared.lookup name).or (if simple = name then some qualifiedName else none) := by
  have hsimple : (if (names.declared.lookup simple).isSome then names.declared
        else (simple, qualifiedName) :: names.declared).lookup name
      = (names.declared.lookup name).or (if simple = name then some qualifiedName else none) := by
    by_cases hname : simple = name
    · subst hname
      cases hlookup : names.declared.lookup simple <;> simp [hlookup]
    · rw [if_neg hname, Option.or_none]
      split
      · rfl
      · rw [lookup_cons_ite, if_neg hname]
  rw [addType]
  -- The relative name, where the type has one, is declared last and so found first.
  cases hrelative : relativeName? names.package qualifiedName with
  | none =>
    have hne : qualifiedName ≠ qualify names.package name := by
      intro heq
      rw [relativeName?_eq_some_iff.2 heq] at hrelative
      cases hrelative
    rw [if_neg hne]
    exact hsimple
  | some relative =>
    have hiff : relative = name ↔ qualifiedName = qualify names.package name := by
      rw [← relativeName?_eq_some_iff, hrelative, Option.some.injEq]
    dsimp only
    rw [lookup_cons_ite, hsimple]
    simp only [hiff]

/-! All imports and all types. -/

theorem of_imports_concat (package : Option String) (imports : List Import) (i : Import)
    : of package (imports ++ [i]) [] = (of package imports []).addImport i := by
  rw [of, List.foldl_nil, List.foldl_append]
  rfl

theorem of_concat (package : Option String) (imports : List Import) (types : List (String × String))
    (type : String × String)
    : of package imports (types ++ [type]) = (of package imports types).addType type.1 type.2 := by
  rw [of, List.foldl_append]
  rfl

theorem of_imports_eq (package : Option String) (imports : List Import)
    : of package imports []
        =
      { package := package.getD ""
        imported := (of package imports []).imported
        wildcards := (of package imports []).wildcards } := by
  induction imports using List.reverseRecOn with
  | nil => rfl
  | append_singleton imports i ih => rw [of_imports_concat, addImport_eq, ih]

theorem of_eq (package : Option String) (imports : List Import) (types : List (String × String))
    : of package imports types
        =
      { of package imports [] with declared := (of package imports types).declared } := by
  induction types using List.reverseRecOn with
  | nil => rfl
  | append_singleton types type ih => rw [of_concat, addType_eq, ih]

@[simp]
theorem package_of (package : Option String) (imports : List Import)
    (types : List (String × String)) : (of package imports types).package = package.getD "" := by
  rw [of_eq, of_imports_eq]

theorem wildcards_of (package : Option String) (imports : List Import)
    (types : List (String × String))
    : (of package imports types).wildcards
        =
      (imports.filter fun i => !i.isStatic && i.wildcard).map Import.path := by
  rw [of_eq]
  dsimp only
  induction imports using List.reverseRecOn with
  | nil => rfl
  | append_singleton imports i ih =>
    rw [of_imports_concat, wildcards_addImport, ih, List.filter_append, List.map_append]

theorem lookup_imported (package : Option String) (imports : List Import)
    (types : List (String × String)) (name : String)
    : (of package imports types).imported.lookup name
        =
      (lastImport? imports name).map Import.path := by
  rw [of_eq]
  dsimp only
  induction imports using List.reverseRecOn with
  | nil => rfl
  | append_singleton imports i ih =>
    rw [of_imports_concat, lookup_addImport, ih, lastImport?, lastImport?, List.reverse_append,
      List.reverse_singleton, List.singleton_append, List.find?_cons]
    cases i.binds name <;> rfl

theorem lookup_declared (package : Option String) (imports : List Import)
    (types : List (String × String)) (name : String)
    : (of package imports types).declared.lookup name
        =
      if qualify (package.getD "") name ∈ types.map Prod.snd then
        some (qualify (package.getD "") name)
      else
        types.lookup name := by
  induction types using List.reverseRecOn with
  | nil =>
    rw [of_imports_eq]
    rfl
  | append_singleton types type ih =>
    have hlookup : (types ++ [type]).lookup name
        = (types.lookup name).or (if type.1 = name then some type.2 else none) := by
      rw [List.lookup_append, lookup_cons_ite, List.lookup_nil]
    have hmem : qualify (package.getD "") name ∈ (types ++ [type]).map Prod.snd
        ↔ qualify (package.getD "") name ∈ types.map Prod.snd
          ∨ type.2 = qualify (package.getD "") name := by
      simp [eq_comm]
    rw [of_concat, lookup_addType, ih, package_of, hlookup]
    by_cases hlast : type.2 = qualify (package.getD "") name
    · rw [if_pos hlast, if_pos (hmem.2 (.inr hlast)), hlast]
    · rw [if_neg hlast]
      by_cases hfirst : qualify (package.getD "") name ∈ types.map Prod.snd
      · rw [if_pos hfirst, if_pos (hmem.2 (.inl hfirst)), Option.some_or]
      · rw [if_neg hfirst, if_neg (fun h => (hmem.1 h).elim hfirst hlast)]

theorem lookup_declared_eq_none_iff {package : Option String} (imports : List Import)
    {types : List (String × String)} {name : String}
    : (of package imports types).declared.lookup name = none
        ↔
      ¬IsDeclared package types name := by
  rw [lookup_declared, IsDeclared]
  split
  · next hmem =>
    obtain ⟨type, htype, heq⟩ := List.mem_map.1 hmem
    simp only [reduceCtorEq, false_iff, not_not]
    exact ⟨type, htype, .inr heq⟩
  · next hmem =>
    rw [List.lookup_eq_none_iff]
    constructor
    · rintro hsimple ⟨type, htype, rfl | heq⟩
      · simpa using hsimple type htype
      · exact hmem (List.mem_map.2 ⟨type, htype, heq⟩)
    · intro hnone type htype
      rw [bne_iff_ne]
      intro heq
      exact hnone ⟨type, htype, .inl heq.symm⟩

/-! Resolving a name. -/

theorem resolve_of_declared {names : TypeNames} {name full : String}
    (h : names.declared.lookup name = some full) : names.resolve name = .qualified full := by
  rw [resolve, h]

theorem resolve_simple {names : TypeNames} {name : String} (hname : '.' ∉ name.toList)
    : names.resolve name
        =
      match (names.declared.lookup name).or (names.imported.lookup name) with
      | some full => .qualified full
      | none => .simple name names.packages := by
  rw [resolve, Text.splitFirst?_of_not_mem hname]
  cases hdeclared : names.declared.lookup name with
  | some full => rfl
  | none => cases himported : names.imported.lookup name <;> simp [hdeclared, himported]

theorem resolve_dotted {names : TypeNames} {head : String} (hhead : '.' ∉ head.toList)
    (suffix : String) (hnew : names.declared.lookup (head ++ "." ++ suffix) = none)
    : names.resolve (head ++ "." ++ suffix)
        =
      match (names.imported.lookup head).or (names.declared.lookup head) with
      | some full => .qualified (full ++ "." ++ suffix)
      | none =>
        if startsWith Text.isLowercase head then .qualified (head ++ "." ++ suffix)
        else .simple (head ++ "." ++ suffix) names.packages := by
  have hsplit : Text.splitFirst? '.' (head ++ "." ++ suffix).toList
      = some (head.toList, suffix.toList) := by
    rw [String.toList_append, String.toList_append, List.append_assoc]
    exact Text.splitFirst?_append hhead _
  rw [resolve, hnew, hsplit]
  cases hknown : (names.imported.lookup head).or (names.declared.lookup head) <;> simp [hknown]

/--
A name with dots is resolved through its head as the head alone is, unless an import brings another
type than the declared one that the head alone stands for. Then the name with dots is looked for in
the imported type.
-/
theorem resolve_dotted_iff (package : Option String) (imports : List Import)
    (types : List (String × String)) {head suffix full : String} (hhead : '.' ∉ head.toList)
    (hnew : ¬IsDeclared package types (head ++ "." ++ suffix))
    (hfull : (of package imports types).resolve head = .qualified full)
    : ((of package imports types).resolve (head ++ "." ++ suffix)
            = .qualified (full ++ "." ++ suffix)
          ↔ ∀ i, lastImport? imports head = some i → i.path = full)
      ∧ ∀ i, lastImport? imports head = some i → i.path ≠ full →
        IsDeclared package types head
          ∧ (of package imports types).resolve (head ++ "." ++ suffix)
            = .qualified (i.path ++ "." ++ suffix) := by
  have hdotted := resolve_dotted hhead suffix ((lookup_declared_eq_none_iff imports).2 hnew)
  rw [resolve_simple hhead] at hfull
  rw [lookup_imported] at hdotted hfull
  cases himport : lastImport? imports head with
  | none =>
    rw [himport, Option.map_none, Option.or_none] at hfull
    rw [himport, Option.map_none, Option.none_or] at hdotted
    cases hdeclared : (of package imports types).declared.lookup head with
    | none => simp [hdeclared] at hfull
    | some declared =>
      rw [hdeclared] at hfull hdotted
      cases hfull
      simp [hdotted]
  | some i =>
    rw [himport, Option.map_some, Option.some_or] at hdotted
    rw [himport, Option.map_some] at hfull
    simp only [hdotted, Option.some.injEq, forall_eq', TypeRef.qualified.injEq, and_true]
    refine ⟨⟨fun heq => ?_, fun heq => by rw [heq]⟩, fun hne => ?_⟩
    · simpa using heq
    · by_contra hhidden
      rw [(lookup_declared_eq_none_iff imports).2 hhidden] at hfull
      exact hne (TypeRef.qualified.inj hfull)

theorem resolve_dotted_iff_contentTab
    : let imports : List Import :=
        [{ path := "org.chromium.content.Tab" },
          { path := "org.chromium.base", wildcard := true }]
      let types :=
        [("Browser", "org.chromium.chrome.Browser"),
          ("Window", "org.chromium.chrome.Browser.Window")]
      let names := of (some "org.chromium.chrome") imports types
      '.' ∉ "Tab".toList
        ∧ ¬IsDeclared (some "org.chromium.chrome") types "Tab.State"
        ∧ names.resolve "Tab" = .qualified "org.chromium.content.Tab"
        ∧ names.resolve "Tab.State" = .qualified "org.chromium.content.Tab.State" := by
  intro imports types names
  have hnew : ¬IsDeclared (some "org.chromium.chrome") types "Tab.State" := by
    rw [← lookup_declared_eq_none_iff imports]
    decide +kernel
  have hfull : names.resolve "Tab" = .qualified "org.chromium.content.Tab" := by decide +kernel
  refine ⟨by decide, hnew, hfull, ?_⟩
  refine (@resolve_dotted_iff _ imports types "Tab" "State" _ (by decide) hnew hfull).1.2 ?_
  intro i hi
  have hlast : (lastImport? imports "Tab").map Import.path = some "org.chromium.content.Tab" := by
    decide +kernel
  rw [hi] at hlast
  exact Option.some.inj hlast

/--
A type inside a declared type that has the name of an imported one.
-/
theorem importedTab_not_resolve_dotted
    : let types := [("A", "p.A"), ("Tab", "p.A.Tab"), ("State", "p.A.Tab.State")]
      let names := of (some "p") [{ path := "q.Tab" }] types
      '.' ∉ "Tab".toList
        ∧ ¬IsDeclared (some "p") types "Tab.State"
        ∧ names.resolve "Tab" = .qualified "p.A.Tab"
        ∧ names.resolve "Tab.State" ≠ .qualified "p.A.Tab.State" := by
  intro types names
  refine ⟨by decide, ?_, by decide +kernel, by decide +kernel⟩
  rw [← lookup_declared_eq_none_iff [{ path := "q.Tab" }]]
  decide +kernel

end TypeNames

end DeprecatedUse.Java
