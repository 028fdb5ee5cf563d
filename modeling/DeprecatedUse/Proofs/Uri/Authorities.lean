import DeprecatedUse.Proofs.Text.Splitting
import DeprecatedUse.Proofs.Uri.Percent
import DeprecatedUse.Uri.Parser

/-!
This module contains the authorities of URIs. An authority that was read is read as itself when it
is written and read again, if its host is.
-/

namespace DeprecatedUse

namespace Text

theorem mem_join {sep : List Char} {parts : List (List Char)} {c : Char} (h : c ∈ join sep parts)
    : c ∈ sep ∨ ∃ part, part ∈ parts ∧ c ∈ part := by
  rw [join] at h
  obtain ⟨piece, hpiece, hc⟩ := List.mem_flatten.1 h
  induction parts with
  | nil => cases hpiece
  | cons part parts ih =>
    cases parts with
    | nil =>
      rw [List.intersperse_singleton, List.mem_singleton] at hpiece
      subst hpiece
      exact .inr ⟨piece, List.mem_cons_self, hc⟩
    | cons next parts =>
      rw [List.intersperse_cons_cons, List.mem_cons, List.mem_cons] at hpiece
      obtain rfl | rfl | hpiece := hpiece
      · exact .inr ⟨piece, List.mem_cons_self, hc⟩
      · exact .inl hc
      · obtain hsep | ⟨other, hother, hc⟩ :=
          ih (List.mem_flatten.2 ⟨piece, hpiece, hc⟩) hpiece
        · exact .inl hsep
        · exact .inr ⟨other, List.mem_cons_of_mem _ hother, hc⟩

theorem hexValue?_digitChar {k : Nat} (h : k < 16) : hexValue? (Nat.digitChar k) = some k := by
  interval_cases k <;> rfl

theorem hexValue?_of_mem_toDigits {n : Nat} {c : Char} (h : c ∈ Nat.toDigits 16 n)
    : (hexValue? c).isSome := by
  induction n using Nat.strongRecOn with
  | ind n ih =>
    rw [Nat.toDigits_eq_if (by decide)] at h
    split at h
    · next hlt =>
      rw [List.mem_singleton] at h
      rw [h, hexValue?_digitChar hlt]
      rfl
    · next hge =>
      rw [List.mem_append, List.mem_singleton] at h
      obtain h | rfl := h
      · exact ih (n / 16) (by omega) h
      · rw [hexValue?_digitChar (Nat.mod_lt n (by decide))]
        rfl

end Text

namespace Uri

/-! Services. -/

theorem number?_append (base : Nat) (ds : List Char) (d : Char)
    : number? base (ds ++ [d])
        = (number? base ds).bind fun n => (Text.hexValue? d).bind fun v =>
            if v < base then some (n * base + v) else none := by
  rw [number?, List.foldlM_append, ← number?]
  simp

theorem number?_toDigits (n : Nat) : number? 10 (Nat.toDigits 10 n) = some n := by
  induction n using Nat.strongRecOn with
  | ind n ih =>
    rw [Nat.toDigits_eq_if (by decide)]
    split
    · next hlt =>
      have hdigit := Text.hexValue?_digitChar (k := n) (by omega)
      simp [number?, hdigit, hlt]
    · next hge =>
      have hdigit := Text.hexValue?_digitChar (k := n % 10) (by omega)
      rw [number?_append, ih (n / 10) (by omega), hdigit]
      have hlt : n % 10 < 10 := Nat.mod_lt n (by decide)
      simp [hlt]
      omega

def IsService (scheme : String) (n : Nat) : Prop :=
  n ≤ 65535 ∧ netSchemes.lookup scheme ≠ some n

theorem isService_of_service? {scheme : String} {digits : List Char} {n : Nat}
    (h : service? scheme digits = some (some n)) : IsService scheme n := by
  rw [service?] at h
  split at h
  · cases h
  · split at h
    · obtain ⟨m, -, hm⟩ := Option.bind_eq_some_iff.1 h
      dsimp only at hm
      split at hm
      · cases hm
      · next hle =>
        simp only [Option.pure_def, Option.some.injEq] at hm
        split at hm
        · cases hm
        · next hlookup =>
          cases hm
          exact ⟨Nat.le_of_not_lt hle, hlookup⟩
    · cases h

theorem service?_toDigits {scheme : String} {n : Nat} (h : IsService scheme n)
    : service? scheme (Nat.toDigits 10 n) = some (some n) := by
  have hdigits : (Nat.toDigits 10 n).all Char.isDigit = true := by
    rw [List.all_eq_true]
    intro c hc
    exact Nat.isDigit_of_mem_toDigits (by decide) (by decide) hc
  rw [service?, if_neg Nat.toDigits_ne_nil, if_pos hdigits, number?_toDigits]
  simp [Nat.not_lt.2 h.1, h.2]

/-! Users. -/

def IsUser (text : List Char) : Prop :=
  text ≠ [] ∧ ∃ name password, text = encode mustInUser name
    ++ (if password = [] then [] else ':' :: encode mustInUser password)

theorem isUser_of_renderUser {cs : List Char} {user : String} (h : renderUser cs = some user)
    : IsUser user.toList := by
  have hparts : ∃ name password,
      (if encode mustInUser name
            ++ (if password = [] then [] else ':' :: encode mustInUser password) = [] then none
        else some (String.ofList (encode mustInUser name
          ++ (if password = [] then [] else ':' :: encode mustInUser password)))) = some user := by
    rw [renderUser] at h
    cases hsplit : Text.splitFirst? ':' cs with
    | none =>
      rw [hsplit] at h
      exact ⟨cs, [], h⟩
    | some parts =>
      rw [hsplit] at h
      exact ⟨parts.1, parts.2, h⟩
  obtain ⟨name, password, h⟩ := hparts
  by_cases hne : encode mustInUser name
      ++ (if password = [] then [] else ':' :: encode mustInUser password) = []
  · rw [if_pos hne] at h
    cases h
  · rw [if_neg hne, Option.some.injEq] at h
    subst h
    rw [String.toList_ofList]
    exact ⟨hne, name, password, rfl⟩

theorem stays_of_mem_encode_inUser {x : Char} {cs : List Char} (h : x ∈ encode mustInUser cs)
    : mustInUser x = false :=
  (written_encode escapes_stay_inUser cs x h).1

theorem mem_of_isUser {text : List Char} (h : IsUser text) {x : Char} (hx : x ∈ text)
    : x = ':' ∨ mustInUser x = false := by
  obtain ⟨-, name, password, rfl⟩ := h
  obtain hx | hx := List.mem_append.1 hx
  · exact .inr (stays_of_mem_encode_inUser hx)
  · split at hx
    · cases hx
    · obtain hx | hx := List.mem_cons.1 hx
      · exact .inl hx
      · exact .inr (stays_of_mem_encode_inUser hx)

theorem renderUser_of_isUser {text : List Char} (h : IsUser text)
    : renderUser text = some (String.ofList text) := by
  obtain ⟨hne, name, password, rfl⟩ := h
  have hname : ':' ∉ encode mustInUser name := fun hmem =>
    absurd (stays_of_mem_encode_inUser hmem) (by decide)
  by_cases hpassword : password = []
  · rw [if_pos hpassword, List.append_nil] at hne ⊢
    rw [renderUser, Text.splitFirst?_of_not_mem hname]
    dsimp only
    rw [if_pos rfl, List.append_nil, (written_encode escapes_stay_inUser name).encode, if_neg hne]
  · rw [if_neg hpassword] at hne ⊢
    have hsecond : encode mustInUser password ≠ [] := fun hnil => hpassword (encode_eq_nil hnil)
    rw [renderUser, Text.splitFirst?_append hname]
    dsimp only
    rw [if_neg hsecond, (written_encode escapes_stay_inUser name).encode,
      (written_encode escapes_stay_inUser password).encode, if_neg hne]

/-! Hosts. -/

def hostOf? (scheme : String) (cs : List Char) : Option (List Char) :=
  if scheme = "file" ∨ isNetScheme scheme = true then netHost? cs else otherHost? cs

def IsHost (text : List Char) : Prop :=
  (∃ inside, text = '[' :: (inside ++ [']'])
      ∧ ∀ c, c ∈ inside → c = ':' ∨ (Text.hexValue? c).isSome)
    ∨ ∀ c, c ∈ text → isForbidden c = false ∧ isControl c = false

theorem isHost_of_bracketHost? {cs text : List Char} (h : bracketHost? cs = some text)
    : IsHost text := by
  have hpieces : ∀ (ps : List Nat) (c : Char), c ∈ renderPieces ps →
      c = ':' ∨ (Text.hexValue? c).isSome := by
    intro ps c hc
    obtain hc | ⟨part, hpart, hc⟩ := Text.mem_join hc
    · exact .inl (List.mem_singleton.1 hc)
    · obtain ⟨p, -, rfl⟩ := List.mem_map.1 hpart
      exact .inr (Text.hexValue?_of_mem_toDigits hc)
  have hgap : ∀ (ps : List Nat) (c : Char), c ∈ renderSixteenBytes ps →
      c = ':' ∨ (Text.hexValue? c).isSome := by
    intro ps c hc
    rw [renderSixteenBytes] at hc
    dsimp only at hc
    split at hc
    · exact hpieces _ c hc
    · rw [List.mem_append, List.mem_append] at hc
      obtain (hc | hc) | hc := hc
      · exact hpieces _ c hc
      · simp only [List.mem_cons, List.not_mem_nil, or_false, or_self] at hc
        exact .inl hc
      · exact hpieces _ c hc
  rw [bracketHost?] at h
  split at h
  · cases h
  · obtain ⟨ps, -, hps⟩ := Option.bind_eq_some_iff.1 h
    cases hps
    exact .inl ⟨renderSixteenBytes ps, rfl, hgap ps⟩

theorem plain_of_mem_toDigits {n : Nat} {c : Char} (h : c ∈ Nat.toDigits 10 n)
    : isForbidden c = false ∧ isControl c = false := by
  have hdigit := Nat.isDigit_of_mem_toDigits (by decide) (by decide) h
  have hbounds : 48 ≤ c.toNat ∧ c.toNat ≤ 57 := by
    simpa [Char.isDigit, UInt32.le_iff_toNat_le] using hdigit
  constructor
  · by_contra hforbidden
    simp only [isForbidden, Bool.not_eq_false, List.contains_iff_mem, List.mem_cons,
      List.not_mem_nil, or_false] at hforbidden
    rcases hforbidden with hc | hc | hc | hc | hc | hc | hc | hc | hc | hc | hc | hc | hc | hc
      | hc | hc | hc
    all_goals
      subst hc
      revert hdigit
      decide
  · simp [isControl]
    omega

theorem plain_of_mem_renderFourBytes {n : Nat} {c : Char} (h : c ∈ renderFourBytes n)
    : isForbidden c = false ∧ isControl c = false := by
  rw [renderFourBytes, String.toList_intercalate, List.intercalate] at h
  obtain h | ⟨part, hpart, hc⟩ := Text.mem_join h
  · rw [List.mem_singleton.1 h]
    exact ⟨by decide, by decide⟩
  · obtain ⟨text, htext, rfl⟩ := List.mem_map.1 hpart
    obtain ⟨unit, -, rfl⟩ := List.mem_map.1 htext
    rw [Nat.toString_eq_ofList_toDigits, String.toList_ofList] at hc
    exact plain_of_mem_toDigits hc

theorem isHost_of_netHost? {cs text : List Char} (h : netHost? cs = some text) : IsHost text := by
  unfold netHost? at h
  split at h
  · exact isHost_of_bracketHost? h
  · obtain ⟨spelling, -, h⟩ := Option.bind_eq_some_iff.1 h
    obtain ⟨name, -, h⟩ := Option.bind_eq_some_iff.1 h
    right
    dsimp only at h
    split at h
    · cases h
    · next hplain =>
      split at h
      · obtain ⟨n, -, hn⟩ := Option.bind_eq_some_iff.1 h
        obtain rfl : renderFourBytes n = text := Option.some.inj hn
        exact fun c => plain_of_mem_renderFourBytes
      · cases h
        intro c hc
        rw [not_or, Bool.not_eq_true, List.any_eq_false] at hplain
        have hplain := hplain.2 c hc
        rw [Bool.not_eq_true, Bool.or_eq_false_iff, Bool.or_eq_false_iff] at hplain
        exact hplain.1

theorem netHost?_ne_nil {cs text : List Char} (h : netHost? cs = some text) : text ≠ [] := by
  unfold netHost? at h
  split at h
  · rw [bracketHost?] at h
    split at h
    · cases h
    · obtain ⟨ps, -, hps⟩ := Option.bind_eq_some_iff.1 h
      cases hps
      exact List.cons_ne_nil _ _
  · obtain ⟨spelling, -, h⟩ := Option.bind_eq_some_iff.1 h
    obtain ⟨name, -, h⟩ := Option.bind_eq_some_iff.1 h
    dsimp only at h
    split at h
    · cases h
    · next hname =>
      split at h
      · obtain ⟨n, -, hn⟩ := Option.bind_eq_some_iff.1 h
        obtain rfl : renderFourBytes n = text := Option.some.inj hn
        simp [renderFourBytes]
      · cases h
        rw [not_or] at hname
        exact hname.1

theorem escapes_not_forbidden : ∀ c, c ∈ escapes → isForbidden c = false := by
  simp [escapes, isForbidden]

theorem isHost_of_otherHost? {cs text : List Char} (h : otherHost? cs = some text)
    : IsHost text := by
  unfold otherHost? at h
  split at h
  · exact isHost_of_bracketHost? h
  · split at h
    · cases h
    · next hplain =>
      cases h
      right
      intro c hc
      refine ⟨?_, (written_encode escapes_not_control _ c hc).1⟩
      obtain ⟨hmem, -⟩ | hescape := mem_encode hc
      · rw [Bool.not_eq_true, List.any_eq_false] at hplain
        exact Bool.not_eq_true _ ▸ hplain c hmem
      · exact escapes_not_forbidden c hescape

theorem mem_of_isHost {text : List Char} (h : IsHost text) {x : Char} (hx : x ∈ text)
    : x ∈ ['[', ':', ']'] ∨ (Text.hexValue? x).isSome = true
      ∨ (isForbidden x = false ∧ isControl x = false) := by
  obtain ⟨inside, rfl, hinside⟩ | hplain := h
  · rw [List.mem_cons, List.mem_append, List.mem_singleton] at hx
    obtain rfl | hx | rfl := hx
    · exact .inl (by decide)
    · obtain rfl | hx := hinside x hx
      · exact .inl (by decide)
      · exact .inr (.inl hx)
    · exact .inl (by decide)
  · exact .inr (.inr (hplain x hx))

/-! Whole authorities. -/

def serviceText : Option Nat → List Char
  | none => []
  | some n => ':' :: Nat.toDigits 10 n

theorem serviceText_ne_nil (service : Option Nat)
    : serviceText service ≠ [] ↔ service.isSome = true := by
  cases service <;> simp [serviceText]

theorem toList_render (a : Authority)
    : a.render.toList
        = (a.user.elim [] (·.toList ++ ['@'])) ++ (a.host.toList ++ serviceText a.service) := by
  obtain ⟨user, host, service⟩ := a
  rw [Authority.render]
  cases user <;> cases service <;>
    simp [serviceText, Nat.toList_repr]

theorem splitHost_append {text : List Char} (h : IsHost text) (service : Option Nat)
    : splitHost (text ++ serviceText service) = (text, serviceText service) := by
  have htake : (serviceText service).takeWhile (· != ':') = [] := by
    cases service <;> rfl
  have hdrop : (serviceText service).dropWhile (· != ':') = serviceText service := by
    cases service <;> rfl
  -- In brackets colons do not count until the closing one, and no other host holds a colon.
  obtain ⟨inside, rfl, hinside⟩ | hplain := h
  · have hclose : ']' ∉ '[' :: inside := by
      rw [List.mem_cons, not_or]
      refine ⟨by decide, fun hmem => ?_⟩
      obtain h | h := hinside ']' hmem
      · cases h
      · cases h
    have htext : '[' :: (inside ++ [']']) ++ serviceText service
        = ('[' :: inside) ++ ']' :: serviceText service := by
      simp
    rw [htext, List.cons_append, splitHost, ← List.cons_append, Text.takeWhile_ne_append hclose,
      List.drop_left, List.take_succ_cons,
      List.take_zero, List.drop_succ_cons, List.drop_zero, htake, hdrop, List.append_nil]
    rfl
  · have hcolon : ':' ∉ text := by
      intro hmem
      exact absurd (hplain ':' hmem).1 (by decide)
    unfold splitHost
    split
    · next rest heq =>
      exfalso
      cases text with
      | nil => cases service <;> cases heq
      | cons c text =>
        obtain ⟨rfl, -⟩ := List.cons.inj heq
        exact absurd (hplain '[' List.mem_cons_self).1 (by decide)
    · cases service with
      | none =>
        rw [serviceText, List.append_nil, Text.takeWhile_ne_self hcolon,
          Text.dropWhile_ne_self hcolon]
      | some n =>
        rw [serviceText, Text.takeWhile_ne_append hcolon, Text.dropWhile_ne_append hcolon]

theorem splitService_serviceText (service : Option Nat)
    : splitService (serviceText service) = ((serviceText service).drop 1, []) := by
  cases service with
  | none => rfl
  | some n =>
    have hbackslash : '\\' ∉ Nat.toDigits 10 n := by
      intro hmem
      exact absurd (plain_of_mem_toDigits hmem).1 (by decide)
    rw [serviceText, splitService, List.drop_succ_cons, List.drop_zero,
      Text.takeWhile_ne_self hbackslash, Text.dropWhile_ne_self hbackslash]

theorem service?_serviceText {scheme : String} {service : Option Nat}
    (h : ∀ n, service = some n → IsService scheme n)
    : service? scheme ((serviceText service).drop 1) = some service := by
  cases service with
  | none => rfl
  | some n => exact service?_toDigits (h n rfl)

theorem splitUser_render {user : Option String} {rest : List Char} (hrest : '@' ∉ rest)
    (huser : ∀ text, user = some text → IsUser text.toList)
    : splitUser ((user.elim [] (·.toList ++ ['@'])) ++ rest) = (user.map String.toList, rest) := by
  cases user with
  | none =>
    rw [splitUser, if_neg]
    · rfl
    · rw [List.contains_iff_mem]
      exact hrest
  | some text =>
    have htext : (some text).elim [] (·.toList ++ ['@']) ++ rest = text.toList ++ '@' :: rest := by
      simp
    rw [htext, splitUser, if_pos, Text.afterLast_append hrest]
    · have hlength : (text.toList ++ '@' :: rest).length - rest.length - 1
          = text.toList.length := by
        rw [List.length_append, List.length_cons]
        omega
      dsimp only
      rw [hlength, List.take_left, Option.map_some]
    · rw [List.contains_iff_mem]
      simp

structure Authority.Normal (scheme : String) (a : Authority) : Prop where
  user : ∀ user, a.user = some user → IsUser user.toList
  host : IsHost a.host.toList
  service : ∀ n, a.service = some n → IsService scheme n
  empty : a.host.toList = [] → a.user = none ∧ a.service = none
  net : isNetScheme scheme = true → a.host.toList ≠ []

theorem authority?_eq {scheme : String} (followed : Bool) {cs rest host behind : List Char}
    {user : Option (List Char)} (huser : splitUser cs = (user, rest))
    (hhost : splitHost rest = (host, behind))
    : authority? scheme followed cs
        = if user = some [] ∧ rest = [] ∧ followed = true then none
          else (if isNetScheme scheme = true then netHost? host else otherHost? host).bind
              fun host =>
            if host = [] ∧ ((user.bind renderUser).isSome = true ∨ behind ≠ []) then none
            else (service? scheme (splitService behind).1).map fun service =>
              ({ user := user.bind renderUser, host := String.ofList host, service := service },
                (splitService behind).2) := by
  rw [authority?, huser]
  dsimp only
  rw [hhost]
  split
  · rfl
  · split
    all_goals
      dsimp only
      congr 1
      funext host
      split
      · rfl
      · cases service? scheme (splitService behind).1 <;> rfl

theorem normal_of_authority? {scheme : String} {followed : Bool} {cs start : List Char}
    {a : Authority} (h : authority? scheme followed cs = some (a, start)) : a.Normal scheme := by
  rw [authority?_eq followed (Prod.mk.eta (p := splitUser cs)).symm
    (Prod.mk.eta (p := splitHost (splitUser cs).2)).symm] at h
  generalize (splitUser cs).1 = user, (splitUser cs).2 = rest at h
  generalize (splitHost rest).1 = written, (splitHost rest).2 = behind at h
  split at h
  · cases h
  · obtain ⟨host, hhost, h⟩ := Option.bind_eq_some_iff.1 h
    split at h
    · cases h
    · next hempty =>
      obtain ⟨service, hservice, h⟩ := Option.map_eq_some_iff.1 h
      rw [Prod.mk.injEq] at h
      obtain ⟨rfl, -⟩ := h
      constructor
      · intro text htext
        obtain ⟨cs, -, hcs⟩ := Option.bind_eq_some_iff.1 htext
        exact isUser_of_renderUser hcs
      · dsimp only
        rw [String.toList_ofList]
        split at hhost
        · exact isHost_of_netHost? hhost
        · exact isHost_of_otherHost? hhost
      · rintro n rfl
        exact isService_of_service? hservice
      · intro hnil
        dsimp only at hnil ⊢
        rw [String.toList_ofList] at hnil
        rw [not_and_or, not_or, Bool.not_eq_true, Option.isSome_eq_false_iff,
          Option.isNone_iff_eq_none, not_not] at hempty
        obtain ⟨huser, hbehind⟩ := hempty.resolve_left (not_not.2 hnil)
        refine ⟨huser, ?_⟩
        rw [hbehind] at hservice
        exact (Option.some.inj hservice).symm
      · intro hnet
        rw [if_pos hnet] at hhost
        dsimp only
        rw [String.toList_ofList]
        exact netHost?_ne_nil hhost

theorem mem_serviceText {service : Option Nat} {x : Char} (hx : x ∈ serviceText service)
    : x = ':' ∨ (isForbidden x = false ∧ isControl x = false) := by
  cases service with
  | none => cases hx
  | some n =>
    obtain hx | hx := List.mem_cons.1 hx
    · exact .inl hx
    · exact .inr (plain_of_mem_toDigits hx)

theorem mem_render {scheme : String} {a : Authority} (h : a.Normal scheme) {x : Char}
    (hx : x ∈ a.render.toList)
    : x ∈ ['@', '[', ':', ']'] ∨ (Text.hexValue? x).isSome = true ∨ mustInUser x = false
      ∨ (isForbidden x = false ∧ isControl x = false) := by
  rw [toList_render, List.mem_append, List.mem_append] at hx
  obtain hx | hx | hx := hx
  · cases hu : a.user with
    | none =>
      rw [hu] at hx
      cases hx
    | some user =>
      rw [hu, Option.elim_some, List.mem_append, List.mem_singleton] at hx
      obtain hx | rfl := hx
      · obtain rfl | hx := mem_of_isUser (h.user user hu) hx
        · exact .inl (by decide)
        · exact .inr (.inr (.inl hx))
      · exact .inl (by decide)
  · obtain hx | hx | hx := mem_of_isHost h.host hx
    · exact .inl (List.mem_cons_of_mem _ hx)
    · exact .inr (.inl hx)
    · exact .inr (.inr (.inr hx))
  · obtain rfl | hx := mem_serviceText hx
    · exact .inl (by decide)
    · exact .inr (.inr (.inr hx))

theorem authority?_render {scheme : String} {a : Authority} (h : a.Normal scheme)
    (hscheme : scheme ≠ "file") (followed : Bool)
    : authority? scheme followed a.render.toList
        = (hostOf? scheme a.host.toList).bind fun host =>
            if host = [] ∧ (a.user.isSome ∨ a.service.isSome) then none
            else some ({ a with host := String.ofList host }, []) := by
  have hat : '@' ∉ a.host.toList ++ serviceText a.service := by
    rw [List.mem_append, not_or]
    exact ⟨fun hmem => absurd (mem_of_isHost h.host hmem) (by decide),
      fun hmem => absurd (mem_serviceText hmem) (by decide)⟩
  have hbound : (a.user.map String.toList).bind renderUser = a.user := by
    cases hu : a.user with
    | none => rfl
    | some user =>
      rw [Option.map_some, Option.bind_some, renderUser_of_isUser (h.user user hu),
        String.ofList_toList]
  have hsome : ¬ (a.user.map String.toList = some []
      ∧ a.host.toList ++ serviceText a.service = [] ∧ followed = true) := by
    rintro ⟨hnil, -⟩
    obtain ⟨user, hu, hnil⟩ := Option.map_eq_some_iff.1 hnil
    exact (h.user user hu).1 hnil
  rw [toList_render, authority?_eq followed (splitUser_render hat h.user)
    (splitHost_append h.host a.service), if_neg hsome, hbound, splitService_serviceText,
    service?_serviceText h.service, hostOf?]
  simp only [serviceText_ne_nil, hscheme, false_or, Option.map_some]

end Uri

end DeprecatedUse
