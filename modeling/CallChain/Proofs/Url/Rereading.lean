import CallChain.Proofs.Url.Reading
import Mathlib.Data.List.TakeWhile

/-!
# URLs of the web read once more

A URL of the web that was read and is put together again is cut into the same pieces when it is read once
more (`Url.parse_render`).  Each piece comes out as it went in, except that the host is read off its text: a
name may be too long to be read in the form in which it is written.
-/

set_option autoImplicit false

namespace CallChain

namespace Url

/-! ## Cutting -/

/-- A text is cut where the first character of the kind stands. -/
theorem cut_append {stop : Char → Bool} {a b : List Char} (ha : ∀ c ∈ a, stop c = false)
    (hb : ∀ c, b.head? = some c → stop c = true) : cut stop (a ++ b) = (a, b) := by
  have hkeeps : ∀ c ∈ a, (!stop c) = true := fun c hc => by rw [ha c hc]; rfl
  unfold cut
  rw [List.takeWhile_append_of_pos hkeeps, List.dropWhile_append_of_pos hkeeps]
  cases b with
  | nil => simp
  | cons c b => simp [hb c rfl]

theorem splitFirst_eq_none {sep : Char} {s : List Char} (h : sep ∉ s) : Text.splitFirst sep s = none := by
  rw [Option.eq_none_iff_forall_not_mem]
  rintro ⟨before, after⟩ hcut
  apply h
  rw [(Text.splitFirst_eq_some_iff.mp hcut).2]
  simp

theorem splitLast_eq_none {sep : Char} {s : List Char} (h : sep ∉ s) : splitLast sep s = none := by
  rw [splitLast, splitFirst_eq_none (by simpa using h)]
  rfl

theorem splitLast_append {sep : Char} (before : List Char) {after : List Char} (h : sep ∉ after) :
    splitLast sep (before ++ sep :: after) = some (before, after) := by
  have hreverse : Text.splitFirst sep (before ++ sep :: after).reverse =
      some (after.reverse, before.reverse) := by
    rw [Text.splitFirst_eq_some_iff]
    exact ⟨by simpa using h, by simp⟩
  rw [splitLast, hreverse]
  simp

/-- Visible characters all count. -/
theorem unbroken_inner {s : String} (h : ∀ c ∈ s.toList, 0x20 < c.toNat) :
    unbroken (inner s) = s.toList := by
  have hdrop {l : List Char} (hl : ∀ c ∈ l, 0x20 < c.toNat) :
      l.dropWhile (fun c => decide (c.toNat ≤ 0x20)) = l := by
    cases l with
    | nil => rfl
    | cons c l =>
      have hc := hl c List.mem_cons_self
      rw [List.dropWhile_cons_of_neg]
      simpa using hc
  have hreverse : ∀ c ∈ s.toList.reverse, 0x20 < c.toNat := fun c hc => h c (List.mem_reverse.mp hc)
  rw [inner, hdrop h, hdrop hreverse, List.reverse_reverse, unbroken, List.filter_eq_self]
  intro c hc
  have hvisible := h c hc
  have hbreak : ∀ d ∈ ['\t', '\n', '\r'], d.toNat ≤ 0x20 := List.all_iff_forall_prop.mp (by decide)
  have hnot : isBreak c = false := by
    by_contra hc
    simp only [isBreak, Bool.not_eq_false, Bool.or_eq_true, beq_iff_eq] at hc
    have hle := hbreak c (by simpa [or_assoc] using hc)
    omega
  rw [hnot]
  rfl

theorem mem_webSchemes {scheme : String} (h : SchemeKind.ofScheme scheme = .web) :
    scheme ∈ ["http", "https", "ws", "wss", "ftp"] := by
  unfold SchemeKind.ofScheme at h
  split at h
  · cases h
  · split at h
    next hmem => exact List.contains_iff_mem.mp hmem
    · cases h

/-- A scheme of the web is found in front of its colon. -/
theorem scheme?_web {scheme : String} (h : SchemeKind.ofScheme scheme = .web) (rest : List Char) :
    scheme? (scheme.toList ++ ':' :: rest) = some (scheme, rest) := by
  have hschemes : ∀ s ∈ ["http", "https", "ws", "wss", "ftp"],
      s.toList.all isSchemeChar = true ∧ Text.lower s = s ∧
        ∃ c r, s.toList = c :: r ∧ c.isAlpha = true := by
    simp only [List.forall_mem_cons]
    refine ⟨⟨by decide, by decide, 'h', ['t', 't', 'p'], rfl, by decide⟩,
      ⟨by decide, by decide, 'h', ['t', 't', 'p', 's'], rfl, by decide⟩,
      ⟨by decide, by decide, 'w', ['s'], rfl, by decide⟩,
      ⟨by decide, by decide, 'w', ['s', 's'], rfl, by decide⟩,
      ⟨by decide, by decide, 'f', ['t', 'p'], rfl, by decide⟩, by simp⟩
  obtain ⟨hchars, hlower, c, r, hlist, halpha⟩ := hschemes scheme (mem_webSchemes h)
  have hcut : cut (fun x => !isSchemeChar x) (scheme.toList ++ ':' :: rest) = (scheme.toList, ':' :: rest) := by
    refine cut_append (fun x hx => by rw [List.all_eq_true.mp hchars x hx]; rfl) fun x hx => ?_
    cases hx
    decide
  rw [hlist] at hcut ⊢
  rw [List.cons_append, scheme?]
  rw [List.cons_append] at hcut
  rw [hcut]
  show (if c.isAlpha = true then some (Text.lower (String.ofList (c :: r)), rest) else none) = _
  rw [if_pos halpha, ← hlist, String.ofList_toList, hlower]

/-! ## Authorities -/

theorem digits?_append (b n : Nat) (s t : List Char) :
    Ipv4.digits? b n (s ++ t) = (Ipv4.digits? b n s).bind fun m => Ipv4.digits? b m t := by
  induction s generalizing n with
  | nil => rfl
  | cons c s ih =>
    rw [List.cons_append, Ipv4.digits?, Ipv4.digits?]
    cases digitValue? b c with
    | none => rfl
    | some v => exact ih _

/-- The decimal digits of a number are read as the number. -/
theorem digits?_toDigits (n : Nat) : Ipv4.digits? 10 0 (Nat.toDigits 10 n) = some n := by
  have hdigit : ∀ k : Fin 10, digitValue? 10 (Nat.digitChar k) = some k.val := by decide
  have hlast (m k : Nat) (hk : k < 10) :
      Ipv4.digits? 10 m [Nat.digitChar k] = some (10 * m + k) := by
    rw [Ipv4.digits?, hdigit ⟨k, hk⟩]
    rfl
  induction n using Nat.strongRecOn with
  | ind n ih =>
    rw [Nat.toDigits_eq_if (by decide)]
    split
    next hlt =>
      rw [hlast 0 n hlt]
      simp
    next hge =>
      rw [digits?_append, ih (n / 10) (by omega), Option.bind_some, hlast _ _ (by omega),
        Nat.div_add_mod]

/-- A port as it is written is read as it was. -/
theorem readPort_written {scheme : String} {p : Nat} (hp : p ≤ 65535) (husual : usualPort? scheme ≠ some p)
    (r : List Char) :
    readPort scheme ((toString p).toList ++ '/' :: r) = .ok (some p, '/' :: r) := by
  have hdigit : ∀ c ∈ Nat.toDigits 10 p, c.isDigit = true := fun c hc =>
    Nat.isDigit_of_mem_toDigits (by decide) (Nat.le_refl 10) hc
  have hslash : ('/').isDigit = false := by decide
  have htake : (Nat.toDigits 10 p ++ '/' :: r).takeWhile Char.isDigit = Nat.toDigits 10 p := by
    rw [List.takeWhile_append_of_pos hdigit, List.takeWhile_cons_of_neg (by simp [hslash]),
      List.append_nil]
  have hdrop : (Nat.toDigits 10 p ++ '/' :: r).dropWhile Char.isDigit = '/' :: r := by
    rw [List.dropWhile_append_of_pos hdigit, List.dropWhile_cons_of_neg (by simp [hslash])]
  have hkept : ((Nat.toDigits 10 p).isEmpty || usualPort? scheme = some p) = false := by
    simp [husual, Nat.toDigits_ne_nil]
  have hnext : (('/' :: r).head?.any fun c => !"/\\?#".toList.contains c) = false := by
    show (!"/\\?#".toList.contains '/') = false
    decide
  rw [Host.toList_toString, readPort]
  simp only [htake, hdrop, digits?_toDigits, if_neg (show ¬65535 < p by omega), hnext,
    Bool.false_eq_true, if_false, hkept]

/-- The text of a port. -/
def portText : Option Nat → List Char
  | none => []
  | some p => ':' :: (toString p).toList

/-- The text of an authority without its slashes. -/
def authorityText (a : Authority) : List Char :=
  (if a.userinfo = "" then [] else a.userinfo.toList ++ ['@']) ++
    (a.host.render.toList ++ portText a.port)

theorem toList_renderAuthority (a : Authority) :
    (renderAuthority a).toList = '/' :: '/' :: authorityText a := by
  obtain ⟨userinfo, host, port⟩ := a
  simp only [renderAuthority, authorityText]
  split <;> cases port <;> simp [portText]

theorem inAuthority_of_mem_portText {port : Option Nat} {c : Char} (h : c ∈ portText port) :
    InAuthority c := by
  cases port with
  | none => cases h
  | some p =>
    obtain rfl | hdigit := List.mem_cons.mp h
    · exact ⟨by decide, by decide⟩
    · rw [Host.toList_toString] at hdigit
      obtain ⟨k, hk, rfl⟩ := Host.exists_of_mem_toDigits (by decide) hdigit
      have hall : ∀ k : Fin 10,
          0x20 < (Nat.digitChar k).toNat ∧ Nat.digitChar k ∉ "/?#\\@".toList := by decide
      exact hall ⟨k, hk⟩

section

variable {scheme : String} {a : Authority}

/-- The text of the host and the port has nothing that would end the authority or its first part. -/
theorem inAuthority_of_mem_place (h : a.Read scheme) {c : Char}
    (hc : c ∈ a.host.render.toList ++ portText a.port) : InAuthority c := by
  obtain hhost | hport := List.mem_append.mp hc
  · exact h.host.written.plain c hhost
  · exact inAuthority_of_mem_portText hport

theorem mem_authorityText (h : a.Read scheme) {c : Char} (hc : c ∈ authorityText a) :
    0x20 < c.toNat ∧ c ∉ "/?#\\".toList := by
  have hsub : ∀ d ∈ "/?#\\".toList, d ∈ "/?#\\@".toList := List.all_iff_forall_prop.mp (by decide)
  have hplain {c : Char} (hc : InAuthority c) : 0x20 < c.toNat ∧ c ∉ "/?#\\".toList :=
    ⟨hc.1, fun hmem => hc.2 (hsub c hmem)⟩
  obtain huser | hplace := List.mem_append.mp hc
  · split at huser
    · cases huser
    · obtain hname | hmark := List.mem_append.mp huser
      · exact hplain (h.plain c hname)
      · rw [List.mem_singleton.mp hmark]
        exact ⟨by decide, by decide⟩
  · exact hplain (inAuthority_of_mem_place h hplace)

theorem authorityText_ne_nil (h : a.Read scheme) : authorityText a ≠ [] := by
  intro hnil
  exact h.host.written.ne_nil (List.append_eq_nil_iff.mp (List.append_eq_nil_iff.mp hnil).2).1

theorem splitLast_authorityText (h : a.Read scheme) :
    splitLast '@' (authorityText a) =
      if a.userinfo = "" then none
      else some (a.userinfo.toList, a.host.render.toList ++ portText a.port) := by
  have hplace : '@' ∉ a.host.render.toList ++ portText a.port := fun hmem =>
    (inAuthority_of_mem_place h hmem).2 (by decide)
  unfold authorityText
  split
  · rw [List.nil_append]
    exact splitLast_eq_none hplace
  · rw [List.append_assoc, List.singleton_append]
    exact splitLast_append _ hplace

theorem portOf_portText (h : a.Read scheme) (r : List Char) :
    portOf scheme (portText a.port) ('/' :: r) = .ok (a.port, '/' :: r) := by
  have hport := h.port
  cases hp : a.port with
  | none => rfl
  | some p =>
    obtain ⟨hsize, husual⟩ := hport p hp
    exact readPort_written hsize husual r

/-- An authority as it is written is read as it was, its host from its text. -/
theorem readAuthority_written (h : a.Read scheme) (r : List Char) :
    readAuthority scheme .web (authorityText a ++ '/' :: r) =
      (Host.ofWebText a.host.render.toList).map fun host => ({ a with host := host }, '/' :: r) := by
  have hcut : cut (endsAuthority .web) (authorityText a ++ '/' :: r) = (authorityText a, '/' :: r) := by
    refine cut_append (fun c hc => ?_) fun c hc => ?_
    · have hmarks := (mem_authorityText h hc).2
      simp only [endsAuthority, Bool.or_eq_false_iff, Bool.and_eq_false_iff, beq_eq_false_iff_ne]
      refine ⟨⟨⟨?_, ?_⟩, ?_⟩, .inr ?_⟩ <;>
      · rintro rfl
        exact hmarks (by decide)
    · cases hc
      decide
  have hhost := h.host.written.cutHost (portText a.port) (by cases a.port <;> simp [portText])
  have hparts : (splitLast '@' (authorityText a)).getD ([], authorityText a) =
      (a.userinfo.toList, a.host.render.toList ++ portText a.port) := by
    rw [splitLast_authorityText h]
    split
    next hempty => simp [authorityText, hempty]
    next => rfl
  have hplace : (a.host.render.toList ++ portText a.port).isEmpty = false := by
    simp [h.host.written.ne_nil]
  have hne : ¬a.host.render.toList.isEmpty = true := by simp [h.host.written.ne_nil]
  rw [readAuthority_web, hcut]
  simp only [hparts, authorityOf, hhost, hplace, Bool.false_eq_true, false_and, and_false, if_false,
    if_neg hne, portOf_portText h, h.userinfo]
  cases Host.ofWebText a.host.render.toList <;> rfl

end

/-! ## Paths, queries and fragments -/

/-- The text of the segments of a path. -/
def pathText (segments : List String) : List Char := segments.flatMap fun s => '/' :: s.toList

/-- The text of what follows a path. -/
def endText (query fragment : Option String) : List Char :=
  (query.map fun q => '?' :: q.toList).getD [] ++ (fragment.map fun f => '#' :: f.toList).getD []

/-- Segments that are resolved already are left alone. -/
theorem resolveSegments_append {done segments : List String} (h : ∀ s ∈ segments, SegmentRead s) :
    resolveSegments done segments = done ++ segments := by
  have hnot {s : String} (hs : SegmentRead s) : ¬isTwoPoints s = true ∧ ¬isOnePoint s = true := by
    rw [hs.twoPoints, hs.onePoint]
    simp
  induction segments generalizing done with
  | nil => simp [resolveSegments]
  | cons s segments ih =>
    obtain ⟨hs, hrest⟩ := List.forall_mem_cons.mp h
    obtain ⟨htwo, hone⟩ := hnot hs
    cases segments with
    | nil => rw [resolveSegments, if_neg htwo, if_neg hone]
    | cons t segments =>
      rw [resolveSegments, if_neg htwo, if_neg hone, ih hrest, List.append_assoc]
      · rfl
      · exact List.cons_ne_nil t segments

/-- Behind its first slash, a path is its segments with slashes between them. -/
theorem pathText_eq {segments : List String} (hne : segments ≠ []) :
    pathText segments = '/' :: List.intercalate ['/'] (segments.map String.toList) := by
  induction segments with
  | nil => exact absurd rfl hne
  | cons s segments ih =>
    cases segments with
    | nil => simp [pathText]
    | cons t segments =>
      have hrest := ih (List.cons_ne_nil t segments)
      unfold pathText at hrest ⊢
      rw [List.flatMap_cons, hrest]
      simp [List.intercalate_cons_cons]

theorem segmentTexts_intercalate {segments : List String} (hne : segments ≠ [])
    (h : ∀ s ∈ segments, SegmentRead s) :
    segmentTexts .web (List.intercalate ['/'] (segments.map String.toList)) = segments := by
  have hslash : ∀ piece ∈ segments.map String.toList, '/' ∉ piece := by
    intro piece hpiece hmem
    obtain ⟨s, hs, rfl⟩ := List.mem_map.mp hpiece
    exact ((h s hs).plain '/' hmem).2.1 rfl
  have hback : '\\' ∉ List.intercalate ['/'] (segments.map String.toList) := by
    intro hmem
    obtain hsep | ⟨piece, hpiece, hmem⟩ := Text.mem_intercalate hmem
    · revert hsep
      decide
    · obtain ⟨s, hs, rfl⟩ := List.mem_map.mp hpiece
      exact ((h s hs).plain _ hmem).2.2 rfl
  have hkept : (List.intercalate ['/'] (segments.map String.toList)).map
      (fun c => if c = '\\' then '/' else c) = List.intercalate ['/'] (segments.map String.toList) := by
    refine (List.map_congr_left fun c hc => ?_).trans (List.map_id _)
    show (if c = '\\' then '/' else c) = c
    refine if_neg fun heq => hback ?_
    rw [← heq]
    exact hc
  have hencode : segments.map (fun s => Percent.encode Percent.path s.toList) = segments := by
    refine (List.map_congr_left fun s hs => ?_).trans (List.map_id _)
    exact Percent.encode_eq_self fun c hc => ((h s hs).plain c hc).1
  have hpieces := Text.splitAll_intercalate (by simpa using hne) hslash
  unfold segmentTexts
  rw [if_pos (show SchemeKind.web.isSpecial = true from rfl), hkept]
  show (Text.splitAll '/' _).map (Percent.encode Percent.path) = _
  rw [hpieces, List.map_map]
  exact hencode

/-- A path as it is written is read as it was. -/
theorem pathAfterAuthority_pathText {segments : List String} (hne : segments ≠ [])
    (h : ∀ s ∈ segments, SegmentRead s) :
    pathAfterAuthority .web (pathText segments) = .segments segments := by
  rw [pathText_eq hne, pathAfterAuthority]
  simp only [true_or, if_true]
  rw [segmentTexts_intercalate hne h, resolveSegments_append h, List.nil_append]

theorem mem_pathText {segments : List String} (h : ∀ s ∈ segments, SegmentRead s) {c : Char}
    (hc : c ∈ pathText segments) : 0x20 < c.toNat ∧ endsPath c = false := by
  obtain ⟨s, hs, hc⟩ := List.mem_flatMap.mp hc
  obtain rfl | hc := List.mem_cons.mp hc
  · exact ⟨by decide, by decide⟩
  · obtain ⟨hfragment, hmarks⟩ := Percent.fragment_of_path ((h s hs).plain c hc).1
    refine ⟨Percent.visible_of_fragment hfragment, ?_⟩
    simp only [endsPath, Bool.or_eq_false_iff, beq_eq_false_iff_ne]
    constructor <;>
    · rintro rfl
      exact hmarks (by decide)

section

variable {query fragment : Option String}

/-- Query and fragment as they are written are read as they were. -/
theorem readEnd_endText (hquery : ∀ q, query = some q → ∀ c ∈ q.toList, Percent.webQuery c = false)
    (hfragment : ∀ f, fragment = some f → ∀ c ∈ f.toList, Percent.fragment c = false) :
    readEnd .web (endText query fragment) = (query, fragment) := by
  have hmark (f : String) (hf : fragment = some f) : Percent.encode Percent.fragment f.toList = f :=
    Percent.encode_eq_self (hfragment f hf)
  cases query with
  | none =>
    cases hf : fragment with
    | none => rfl
    | some f =>
      show (none, some (Percent.encode Percent.fragment f.toList)) = _
      rw [hmark f hf]
  | some q =>
    have hcut : cut (· == '#') (q.toList ++ (fragment.map fun f => '#' :: f.toList).getD []) =
        (q.toList, (fragment.map fun f => '#' :: f.toList).getD []) := by
      refine cut_append (fun c hc => ?_) fun c hc => ?_
      · rw [beq_eq_false_iff_ne]
        exact (Percent.visible_of_webQuery (hquery q rfl c hc)).2
      · cases hf : fragment with
        | none =>
          rw [hf] at hc
          cases hc
        | some f =>
          rw [hf] at hc
          cases hc
          rfl
    have hq : Percent.encode Percent.webQuery q.toList = q := Percent.encode_eq_self (hquery q rfl)
    show readEnd .web ('?' :: (q.toList ++ (fragment.map fun f => '#' :: f.toList).getD [])) = _
    unfold readEnd
    simp only [hcut, if_pos (show SchemeKind.web.isSpecial = true from rfl), hq]
    cases hf : fragment with
    | none => rfl
    | some f =>
      show (some q, some (Percent.encode Percent.fragment f.toList)) = _
      rw [hmark f hf]

theorem mem_endText (hquery : ∀ q, query = some q → ∀ c ∈ q.toList, Percent.webQuery c = false)
    (hfragment : ∀ f, fragment = some f → ∀ c ∈ f.toList, Percent.fragment c = false) {c : Char}
    (hc : c ∈ endText query fragment) : 0x20 < c.toNat := by
  obtain hc | hc := List.mem_append.mp hc
  · cases hq : query with
    | none =>
      rw [hq] at hc
      cases hc
    | some q =>
      rw [hq] at hc
      obtain rfl | hc := List.mem_cons.mp hc
      · decide
      · exact (Percent.visible_of_webQuery (hquery q hq c hc)).1
  · cases hf : fragment with
    | none =>
      rw [hf] at hc
      cases hc
    | some f =>
      rw [hf] at hc
      obtain rfl | hc := List.mem_cons.mp hc
      · decide
      · exact Percent.visible_of_fragment (hfragment f hf c hc)

theorem head?_endText {c : Char} (h : (endText query fragment).head? = some c) : endsPath c = true := by
  cases query with
  | some q =>
    cases h
    rfl
  | none =>
    cases fragment with
    | some f =>
      cases h
      rfl
    | none => cases h

end

/-! ## URLs -/

variable {u : Url} {a : Authority} {segments : List String}

theorem toList_render (h : u.Read a segments) :
    u.render.toList = u.scheme.toList ++
      ':' :: '/' :: '/' :: (authorityText a ++ (pathText segments ++ endText u.query u.fragment)) := by
  have hpath : (renderPath false (.segments segments)).toList = pathText segments := by
    unfold renderPath
    rw [String.toList_append, String.toList_join, List.flatMap_map]
    simp [pathText]
  rw [render, h.authority, h.path]
  cases u.query <;> cases u.fragment <;> simp [toList_renderAuthority, hpath, endText]

theorem visible_render (h : u.Read a segments) : ∀ c ∈ u.render.toList, 0x20 < c.toNat := by
  have hscheme : ∀ s ∈ ["http", "https", "ws", "wss", "ftp"],
      (s.toList.all fun c => 0x20 < c.toNat) = true := by
    decide
  intro c hc
  rw [toList_render h, List.mem_append, List.mem_cons, List.mem_cons, List.mem_cons, List.mem_append,
    List.mem_append] at hc
  obtain hc | rfl | rfl | rfl | hc | hc | hc := hc
  · exact List.all_iff_forall_prop.mp (hscheme u.scheme (mem_webSchemes h.scheme)) c hc
  · decide
  · decide
  · decide
  · exact (mem_authorityText h.authorityRead hc).1
  · exact (mem_pathText h.segmentsRead hc).1
  · exact mem_endText h.query h.fragment hc

/-- A URL of the web that is put together is read as it was, its host from its text. -/
theorem parse_render (h : u.Read a segments) :
    parse u.render = (Host.ofWebText a.host.render.toList).map fun host =>
      { u with authority := some { a with host := host } } := by
  -- the path starts with the slash that ends the authority
  obtain ⟨r, hr⟩ : ∃ r, pathText segments = '/' :: r := ⟨_, pathText_eq h.ne_nil⟩
  have hslashes : ('/' :: '/' :: (authorityText a ++ (pathText segments ++ endText u.query u.fragment))).dropWhile
      (fun c => c == '/' || c == '\\') =
        authorityText a ++ '/' :: (r ++ endText u.query u.fragment) := by
    obtain ⟨c, text, htext⟩ := List.exists_cons_of_ne_nil (authorityText_ne_nil h.authorityRead)
    have hc := (mem_authorityText h.authorityRead (htext ▸ List.mem_cons_self : c ∈ authorityText a)).2
    have hfirst : (c == '/' || c == '\\') = false := by
      simp only [Bool.or_eq_false_iff, beq_eq_false_iff_ne]
      constructor <;>
      · rintro rfl
        exact hc (by decide)
    rw [List.dropWhile_cons_of_pos (by decide), List.dropWhile_cons_of_pos (by decide), hr, htext,
      List.cons_append, List.dropWhile_cons_of_neg (by simp [hfirst])]
    rfl
  have hcut : cut endsPath ('/' :: (r ++ endText u.query u.fragment)) =
      (pathText segments, endText u.query u.fragment) := by
    rw [← List.cons_append, ← hr]
    exact cut_append (fun c hc => (mem_pathText h.segmentsRead hc).2) fun c hc => head?_endText hc
  rw [parse, unbroken_inner (visible_render h), toList_render h, scheme?_web h.scheme]
  dsimp only
  rw [h.scheme]
  dsimp only
  rw [readWeb_eq, hslashes, readAuthority_written h.authorityRead]
  cases Host.ofWebText a.host.render.toList with
  | error e => rfl
  | ok host =>
    show Except.ok (webUrl u.scheme { a with host := host } _) = Except.ok _
    rw [webUrl, hcut]
    dsimp only
    rw [pathAfterAuthority_pathText h.ne_nil h.segmentsRead, readEnd_endText h.query h.fragment,
      ← h.path]

end Url

end CallChain
