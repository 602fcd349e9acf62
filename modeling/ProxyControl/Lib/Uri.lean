import ProxyControl.Lib.Hex

/-!
# Links

The form `scheme://userinfo@host:port?query#fragment`, the query optional.  The
scheme ends at the first colon and the fragment begins at the first `#`; the query
begins at the first `?` before it.  Of what is left the last `@` ends the user
information and the last colon the host.

A link is read back from its text exactly when no part of it contains a character
that would end it earlier, or begin it later.
-/

/-! ## Splitting at an element -/

namespace List

variable {α : Type} [DecidableEq α] {a : α}

/-- What is before the first occurrence, and what is after it. -/
def splitFirst (a : α) : List α → Option (List α × List α)
  | [] => none
  | x :: xs =>
      if x = a then some ([], xs)
      else (splitFirst a xs).map fun parts => (x :: parts.1, parts.2)

/-- What is before the last occurrence, and what is after it. -/
def splitLast (a : α) (xs : List α) : Option (List α × List α) :=
  (xs.reverse.splitFirst a).map fun parts => (parts.2.reverse, parts.1.reverse)

theorem splitFirst_eq_none_iff
    {xs : List α} :
    xs.splitFirst a = none ↔ a ∉ xs := by
  induction xs with
  | nil => simp [splitFirst]
  | cons x xs ih =>
      simp only [splitFirst, mem_cons, not_or]
      split_ifs with hx
      · simp [hx]
      · simp [ih, Ne.symm hx]

theorem splitFirst_eq_some_iff
    {xs before after : List α} :
    xs.splitFirst a = some (before, after) ↔
      xs = before ++ a :: after ∧ a ∉ before := by
  induction xs generalizing before with
  | nil => simp [splitFirst]
  | cons x xs ih =>
      simp only [splitFirst]
      split_ifs with hx
      · subst hx
        cases before with
        | nil => simp [eq_comm]
        | cons y ys =>
            simp only [Option.some.injEq, Prod.mk.injEq, mem_cons, not_or]
            constructor
            · rintro ⟨h, -⟩
              cases h
            · rintro ⟨h, hne, -⟩
              exact absurd (cons.inj h).1 hne
      · cases before with
        | nil =>
            simp only [Option.map_eq_some_iff, Prod.mk.injEq, nil_append]
            constructor
            · rintro ⟨parts, -, h, -⟩
              cases h
            · rintro ⟨h, -⟩
              exact absurd (cons.inj h).1 hx
        | cons y ys =>
            simp only [Option.map_eq_some_iff, Prod.mk.injEq, cons.injEq,
              cons_append, mem_cons, not_or]
            constructor
            · rintro ⟨⟨before, after⟩, hparts, ⟨rfl, rfl⟩, rfl⟩
              obtain ⟨hxs, hmem⟩ := ih.mp hparts
              exact ⟨⟨rfl, hxs⟩, Ne.symm hx, hmem⟩
            · rintro ⟨⟨rfl, hxs⟩, -, hmem⟩
              exact ⟨(ys, after), ih.mpr ⟨hxs, hmem⟩, ⟨rfl, rfl⟩, rfl⟩

/-- There is only one way to split at the first occurrence. -/
theorem before_unique
    {before before' after after' : List α}
    (h : a ∉ before) (h' : a ∉ before')
    (heq : before ++ a :: after = before' ++ a :: after') :
    before = before' ∧ after = after' := by
  have hsplit := splitFirst_eq_some_iff.mpr ⟨heq, h'⟩
  rw [splitFirst_eq_some_iff.mpr ⟨rfl, h⟩] at hsplit
  exact Prod.mk.inj (Option.some.inj hsplit)

theorem splitLast_eq_some_iff
    {xs before after : List α} :
    xs.splitLast a = some (before, after) ↔
      xs = before ++ a :: after ∧ a ∉ after := by
  simp only [splitLast, Option.map_eq_some_iff, Prod.exists, Prod.mk.injEq,
    splitFirst_eq_some_iff]
  constructor
  · rintro ⟨after', before', ⟨hxs, hmem⟩, rfl, rfl⟩
    refine ⟨?_, by simpa using hmem⟩
    rw [← xs.reverse_reverse, hxs]
    simp
  · rintro ⟨rfl, hmem⟩
    exact ⟨after.reverse, before.reverse, by simpa using hmem, by simp⟩

end List

/-! ## Links and their text -/

structure Uri where
  scheme : List Char
  userinfo : List Char
  host : List Char
  port : List Char
  query : Option (List Char)
  fragment : List Char
deriving DecidableEq

namespace Uri

def queryText : Option (List Char) → List Char
  | none => []
  | some query => '?' :: query

/-- The user information, the host and the port. -/
def authority (self : Uri) : List Char :=
  self.userinfo ++ '@' :: (self.host ++ ':' :: self.port)

/-- What is between the slashes and the fragment. -/
def body (self : Uri) : List Char :=
  self.authority ++ queryText self.query

def text (self : Uri) : List Char :=
  self.scheme ++ ':' :: '/' :: '/' :: (self.body ++ '#' :: self.fragment)

/-- No part contains what ends it. -/
structure Delimited (uri : Uri) : Prop where
  scheme : ':' ∉ uri.scheme
  body : '#' ∉ uri.body
  authority : '?' ∉ uri.authority
  address : '@' ∉ uri.host ++ ':' :: uri.port
  port : ':' ∉ uri.port

theorem not_mem_authority
    {uri : Uri} {c : Char} (h : c ∉ uri.authority) :
    c ∉ uri.userinfo ∧ c ∉ uri.host := by
  simp only [authority, List.mem_append, List.mem_cons, not_or] at h
  exact ⟨h.1, h.2.2.1⟩

theorem not_mem_body
    {uri : Uri} {c : Char} (h : c ∉ uri.body) :
    c ∉ uri.authority ∧ c ∉ queryText uri.query := by
  rwa [body, List.mem_append, not_or] at h

theorem not_mem_text
    {uri : Uri} {c : Char} (h : c ∉ uri.text) :
    c ∉ uri.body := by
  simp only [text, List.mem_append, List.mem_cons, not_or] at h
  exact h.2.2.2.2.1

def dropSlashes : List Char → Option (List Char)
  | '/' :: '/' :: rest => some rest
  | _ => none

def splitQuery (body : List Char) : List Char × Option (List Char) :=
  match body.splitFirst '?' with
  | some (authority, query) => (authority, some query)
  | none => (body, none)

def parse (text : List Char) : Option Uri := do
  let (scheme, rest) ← text.splitFirst ':'
  let rest ← dropSlashes rest
  let (body, fragment) ← rest.splitFirst '#'
  let (authority, query) := splitQuery body
  let (userinfo, address) ← authority.splitLast '@'
  let (host, port) ← address.splitLast ':'
  return { scheme, userinfo, host, port, query, fragment }

theorem dropSlashes_eq_some_iff
    {text rest : List Char} :
    dropSlashes text = some rest ↔ text = '/' :: '/' :: rest := by
  unfold dropSlashes
  split
  · simp
  · next hslashes =>
      simp only [reduceCtorEq, false_iff]
      exact hslashes rest

theorem splitQuery_eq_iff
    {body authority : List Char} {query : Option (List Char)} :
    splitQuery body = (authority, query) ↔
      body = authority ++ queryText query ∧ '?' ∉ authority := by
  unfold splitQuery
  split
  · next before after hsplit =>
      obtain ⟨rfl, hbefore⟩ := List.splitFirst_eq_some_iff.mp hsplit
      rw [Prod.mk.injEq]
      constructor
      · rintro ⟨rfl, rfl⟩
        exact ⟨rfl, hbefore⟩
      · rintro ⟨hbody, hauthority⟩
        cases query with
        | none =>
            rw [queryText, List.append_nil] at hbody
            rw [← hbody] at hauthority
            simp at hauthority
        | some query =>
            have hsplit' := List.splitFirst_eq_some_iff.mpr
              ⟨hbody, hauthority⟩
            obtain ⟨rfl, rfl⟩ := Prod.mk.inj
              (Option.some.inj (hsplit.symm.trans hsplit'))
            exact ⟨rfl, rfl⟩
  · next hsplit =>
      have hbody := List.splitFirst_eq_none_iff.mp hsplit
      rw [Prod.mk.injEq]
      constructor
      · rintro ⟨rfl, rfl⟩
        exact ⟨by simp [queryText], hbody⟩
      · rintro ⟨rfl, -⟩
        cases query with
        | none => simp [queryText]
        | some query => simp [queryText] at hbody

/-- Parsing reads back exactly the links whose parts are delimited. -/
theorem parse_eq_some_iff
    {text : List Char} {uri : Uri} :
    parse text = some uri ↔ text = uri.text ∧ uri.Delimited := by
  obtain ⟨scheme, userinfo, host, port, query, fragment⟩ := uri
  simp only [parse, Option.bind_eq_bind, Option.bind_eq_some_iff, Prod.exists,
    List.splitFirst_eq_some_iff, List.splitLast_eq_some_iff,
    dropSlashes_eq_some_iff, Option.pure_def, Option.some.injEq, Uri.mk.injEq]
  constructor
  · rintro ⟨_, _, ⟨rfl, hscheme⟩, _, rfl, body, _, ⟨rfl, hbody⟩, _, address,
      ⟨hauthority, haddress⟩, _, _, ⟨rfl, hport⟩, rfl, rfl, rfl, rfl, hquery,
      rfl⟩
    obtain ⟨rfl, hnoQuery⟩ := splitQuery_eq_iff.mp (Prod.ext hauthority hquery)
    exact ⟨rfl, hscheme, hbody, hnoQuery, haddress, hport⟩
  · rintro ⟨rfl, hscheme, hbody, hnoQuery, haddress, hport⟩
    have hsplit := (@splitQuery_eq_iff _ _ query).mpr ⟨rfl, hnoQuery⟩
    refine ⟨_, _, ⟨rfl, hscheme⟩, _, rfl, _, _, ⟨rfl, hbody⟩, _, _, ⟨?_, haddress⟩,
      _, _, ⟨rfl, hport⟩, rfl, rfl, rfl, rfl, ?_, rfl⟩
    · exact congrArg Prod.fst hsplit
    · exact congrArg Prod.snd hsplit

/-- A `#` before the fragment ends what is read as the rest too early. -/
theorem fragment_of_mem_body
    {uri printed : Uri} (huri : uri.Delimited)
    (hscheme : ':' ∉ printed.scheme) (htext : printed.text = uri.text)
    (hmem : '#' ∈ printed.body) :
    ∃ before, uri.fragment = before ++ '#' :: printed.fragment := by
  obtain ⟨as, bs, hbody, has⟩ := List.eq_append_cons_of_mem hmem
  obtain ⟨-, hrest⟩ := List.before_unique hscheme huri.scheme htext
  simp only [List.cons.injEq, true_and] at hrest
  rw [hbody, List.append_assoc, List.cons_append] at hrest
  exact ⟨bs, (List.before_unique has huri.body hrest).2.symm⟩

/-! ## Percent-encoded text -/

/-- The bytes of a text, every valid escape replaced by its byte. -/
def percentDecode : List Char → List UInt8
  | [] => []
  | '%' :: hi :: lo :: rest =>
      match Hex.digitValue hi, Hex.digitValue lo with
      | some h, some l => UInt8.ofNat (16 * h + l) :: percentDecode rest
      | _, _ => String.utf8EncodeChar '%' ++ percentDecode (hi :: lo :: rest)
  | c :: rest => String.utf8EncodeChar c ++ percentDecode rest

/-- Where no escape begins, a character stands for itself. -/
theorem percentDecode_cons
    {c : Char} {rest : List Char}
    (h : ∀ hi lo rest', c = '%' → rest = hi :: lo :: rest' →
      Hex.digitValue hi = none ∨ Hex.digitValue lo = none) :
    percentDecode (c :: rest) =
      String.utf8EncodeChar c ++ percentDecode rest := by
  by_cases hc : c = '%'
  · subst hc
    rcases rest with - | ⟨hi, - | ⟨lo, rest⟩⟩
    · rfl
    · rfl
    · rw [percentDecode]
      split
      · next hhi hlo =>
          rcases h hi lo rest rfl rfl with hnone | hnone
          · rw [hnone] at hhi
            cases hhi
          · rw [hnone] at hlo
            cases hlo
      · rfl
  · rw [percentDecode]
    rintro hi lo rest' rfl
    exact absurd rfl hc

/-- A character that no escape contains separates what is decoded. -/
theorem percentDecode_append
    {c : Char} (hdigit : Hex.digitValue c = none)
    (xs ys : List Char) :
    percentDecode (xs ++ c :: ys) =
      percentDecode xs ++ percentDecode (c :: ys) := by
  fun_induction percentDecode xs with
  | case1 => rfl
  | case2 hi lo rest h l hh hl ih =>
      simp only [List.cons_append, percentDecode, hh, hl, ih]
  | case3 hi lo rest hnone ih =>
      rw [List.append_assoc, ← ih]
      refine percentDecode_cons ?_
      rintro hi' lo' rest' - heq
      obtain ⟨rfl, rfl, -⟩ : hi = hi' ∧ lo = lo' ∧ _ := by simpa using heq
      by_contra hsome
      obtain ⟨hhi, hlo⟩ := not_or.mp hsome
      obtain ⟨h, hh⟩ := Option.ne_none_iff_exists'.mp hhi
      obtain ⟨l, hl⟩ := Option.ne_none_iff_exists'.mp hlo
      exact hnone h l hh hl
  | case4 x rest hx ih =>
      rw [List.append_assoc, ← ih]
      refine percentDecode_cons ?_
      rintro hi lo rest' rfl heq
      -- fewer than two characters are left before the separator
      rcases rest with - | ⟨y, - | ⟨z, rest⟩⟩
      · obtain ⟨rfl, -⟩ := List.cons.inj heq
        exact .inl hdigit
      · obtain ⟨-, htail⟩ := List.cons.inj heq
        obtain ⟨rfl, -⟩ := List.cons.inj htail
        exact .inr hdigit
      · exact absurd rfl (hx y z rest rfl)

end Uri
