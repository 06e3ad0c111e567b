import CallChain.Proofs.Url.Host
import CallChain.Proofs.Url.Percent

/-!
# URLs of the web as reading leaves them

Reading a URL of the web leaves parts that are written as they are: nothing in them would be encoded, no
segment of the path is made of points, and the port is not the usual one (`Url.read_of_parse`).
-/

set_option autoImplicit false

namespace CallChain

namespace Percent

/-- What a fragment leaves alone is visible. -/
theorem visible_of_fragment {c : Char} (h : fragment c = false) : 0x20 < c.toNat := by
  simp only [fragment, control, Bool.or_eq_false_iff, decide_eq_false_iff_not] at h
  obtain ⟨⟨hlow, -⟩, hblank⟩ := h
  have hne : c.toNat ≠ 0x20 := by
    intro heq
    obtain rfl : c = ' ' := Char.toNat_inj.mp heq
    revert hblank
    decide
  omega

theorem not_mem_of_contains {l : List Char} {c : Char} (h : l.contains c = false) : c ∉ l := by
  intro hmem
  rw [List.contains_iff_mem.mpr hmem] at h
  cases h

theorem fragment_of_path {c : Char} (h : path c = false) :
    fragment c = false ∧ c ∉ "#?\x7b\x7d".toList := by
  simp only [path, Bool.or_eq_false_iff] at h
  exact ⟨h.1, not_mem_of_contains h.2⟩

theorem path_of_userinfo {c : Char} (h : userinfo c = false) :
    path c = false ∧ c ∉ "/:;=@[\\]^|".toList := by
  simp only [userinfo, Bool.or_eq_false_iff] at h
  exact ⟨h.1, not_mem_of_contains h.2⟩

theorem visible_of_webQuery {c : Char} (h : webQuery c = false) : 0x20 < c.toNat ∧ c ≠ '#' := by
  simp only [webQuery, query, control, Bool.or_eq_false_iff, decide_eq_false_iff_not] at h
  obtain ⟨⟨⟨hlow, -⟩, hmarks⟩, -⟩ := h
  have hmem := not_mem_of_contains hmarks
  have hne : c.toNat ≠ 0x20 := by
    intro heq
    obtain rfl : c = ' ' := Char.toNat_inj.mp heq
    exact hmem (by decide)
  refine ⟨by omega, ?_⟩
  rintro rfl
  exact hmem (by decide)

end Percent

/-- A character that stands in an authority, wherever its text is cut. -/
def Url.InAuthority (c : Char) : Prop := 0x20 < c.toNat ∧ c ∉ "/?#\\@".toList

/-- An authority of the web as reading leaves it. -/
structure Authority.Read (scheme : String) (a : Authority) : Prop where
  userinfo : Url.userinfoOf a.userinfo.toList = a.userinfo
  plain : ∀ c ∈ a.userinfo.toList, Url.InAuthority c
  host : a.host.Web
  port : ∀ p, a.port = some p → p ≤ 65535 ∧ Url.usualPort? scheme ≠ some p

namespace Url

/-- A segment of a path as reading leaves it. -/
structure SegmentRead (s : String) : Prop where
  plain : ∀ c ∈ s.toList, Percent.path c = false ∧ c ≠ '/' ∧ c ≠ '\\'
  onePoint : isOnePoint s = false
  twoPoints : isTwoPoints s = false

/-- A URL of the web as reading leaves it, with its authority and the segments of its path. -/
structure Read (u : Url) (a : Authority) (segments : List String) : Prop where
  scheme : SchemeKind.ofScheme u.scheme = .web
  authority : u.authority = some a
  authorityRead : a.Read u.scheme
  path : u.path = .segments segments
  ne_nil : segments ≠ []
  segmentsRead : ∀ s ∈ segments, SegmentRead s
  query : ∀ q, u.query = some q → ∀ c ∈ q.toList, Percent.webQuery c = false
  fragment : ∀ f, u.fragment = some f → ∀ c ∈ f.toList, Percent.fragment c = false

/-! ## Authorities -/

theorem inAuthority_of_userinfo {c : Char} (h : Percent.userinfo c = false) : InAuthority c := by
  obtain ⟨hpath, hmarks⟩ := Percent.path_of_userinfo h
  obtain ⟨hfragment, hends⟩ := Percent.fragment_of_path hpath
  refine ⟨Percent.visible_of_fragment hfragment, fun hmem => ?_⟩
  have hsplit : ∀ d ∈ "/?#\\@".toList, d ∈ "/:;=@[\\]^|".toList ∨ d ∈ "#?\x7b\x7d".toList :=
    List.all_iff_forall_prop.mp (by decide)
  exact (hsplit c hmem).elim hmarks hends

theorem not_mem_encode_userinfo {s : List Char} {c : Char} (h : Percent.userinfo c = true) :
    c ∉ (Percent.encode Percent.userinfo s).toList := by
  intro hmem
  rw [Percent.outside_of_mem_encode Percent.stable_userinfo c hmem] at h
  cases h

/-- What an authority is encoded by is encoded already once it is read. -/
theorem encode_encode_userinfo (s : List Char) :
    Percent.encode Percent.userinfo (Percent.encode Percent.userinfo s).toList =
      Percent.encode Percent.userinfo s :=
  Percent.encode_eq_self (Percent.outside_of_mem_encode Percent.stable_userinfo)

/-- Name and password are read as they were written. -/
theorem userinfoOf_userinfoOf (s : List Char) : userinfoOf (userinfoOf s).toList = userinfoOf s := by
  have hone (s : List Char) : userinfoOf (Percent.encode Percent.userinfo s).toList =
      Percent.encode Percent.userinfo s := by
    have hnone : Text.splitFirst ':' (Percent.encode Percent.userinfo s).toList = none := by
      rw [Option.eq_none_iff_forall_not_mem]
      rintro ⟨before, after⟩ hcut
      have hcolon : ':' ∈ (Percent.encode Percent.userinfo s).toList := by
        rw [(Text.splitFirst_eq_some_iff.mp hcut).2]
        simp
      exact not_mem_encode_userinfo (by decide) hcolon
    rw [userinfoOf, hnone]
    exact encode_encode_userinfo s
  cases hcut : Text.splitFirst ':' s with
  | none =>
    have hwritten : userinfoOf s = Percent.encode Percent.userinfo s := by rw [userinfoOf, hcut]
    rw [hwritten]
    exact hone s
  | some pair =>
    obtain ⟨user, password⟩ := pair
    cases password with
    | nil =>
      have hwritten : userinfoOf s = Percent.encode Percent.userinfo user := by rw [userinfoOf, hcut]
      rw [hwritten]
      exact hone user
    | cons c password =>
      have hwritten : userinfoOf s = Percent.encode Percent.userinfo user ++ ":" ++
          Percent.encode Percent.userinfo (c :: password) := by
        rw [userinfoOf, hcut]
      have hagain : Text.splitFirst ':' (userinfoOf s).toList =
          some ((Percent.encode Percent.userinfo user).toList,
            (Percent.encode Percent.userinfo (c :: password)).toList) := by
        rw [Text.splitFirst_eq_some_iff]
        refine ⟨not_mem_encode_userinfo (by decide), ?_⟩
        rw [hwritten]
        simp
      have hne : (Percent.encode Percent.userinfo (c :: password)).toList ≠ [] :=
        fun hnil => List.cons_ne_nil _ _ (Percent.toList_encode_eq_nil_iff.mp hnil)
      obtain ⟨d, rest, hlist⟩ := List.exists_cons_of_ne_nil hne
      rw [hlist] at hagain
      rw [userinfoOf, hagain]
      dsimp only
      rw [← hlist, encode_encode_userinfo, encode_encode_userinfo, hwritten]

theorem inAuthority_of_mem_userinfoOf {s : List Char} {c : Char} (h : c ∈ (userinfoOf s).toList) :
    InAuthority c := by
  have hencoded {s : List Char} (hc : c ∈ (Percent.encode Percent.userinfo s).toList) : InAuthority c :=
    inAuthority_of_userinfo (Percent.outside_of_mem_encode Percent.stable_userinfo c hc)
  unfold userinfoOf at h
  split at h
  · exact hencoded h
  · exact hencoded h
  · rw [String.toList_append, String.toList_append, List.mem_append, List.mem_append] at h
    obtain (huser | hcolon) | hpassword := h
    · exact hencoded huser
    · have hall : ∀ d ∈ ":".toList, 0x20 < d.toNat ∧ d ∉ "/?#\\@".toList :=
        List.all_iff_forall_prop.mp (by decide)
      exact hall c hcolon
    · exact hencoded hpassword

theorem port_of_readPort {scheme : String} {s rest : List Char} {port : Option Nat}
    (h : readPort scheme s = .ok (port, rest)) :
    ∀ p, port = some p → p ≤ 65535 ∧ usualPort? scheme ≠ some p := by
  unfold readPort at h
  dsimp only at h
  split at h
  · cases h
  next n hn =>
    split at h
    · cases h
    next hsize =>
      split at h
      · cases h
      · cases h
        intro p hp
        split at hp
        · cases hp
        next husual =>
          cases hp
          simp only [Bool.or_eq_true, decide_eq_true_eq, not_or] at husual
          exact ⟨by omega, husual.2⟩

/-- The port of an authority and what follows it, from the text behind the host. -/
def portOf (scheme : String) (portText after : List Char) : Except UrlError (Option Nat × List Char) :=
  match portText with
  | [] => .ok (none, after)
  | _ :: digits => readPort scheme (digits ++ after)

/-- An authority of the web from its pieces: whether there is an `@`, what stands before it, the text of the
host with the port, and what follows the authority. -/
def authorityOf (scheme : String) (named : Bool) (user place after : List Char) :
    Except UrlError (Authority × List Char) :=
  if user.isEmpty ∧ named ∧ place.isEmpty ∧ !after.isEmpty then .error .emptyHost
  else if (cutHost false place).1.isEmpty then .error .emptyHost
  else
    (Host.ofWebText (cutHost false place).1).bind fun host =>
      (portOf scheme (cutHost false place).2 after).map fun p => (⟨userinfoOf user, host, p.1⟩, p.2)

/-- Reading an authority of the web, cut into its pieces first. -/
theorem readAuthority_web (scheme : String) (s : List Char) :
    readAuthority scheme .web s =
      authorityOf scheme (splitLast '@' (cut (endsAuthority .web) s).1).isSome
        ((splitLast '@' (cut (endsAuthority .web) s).1).getD ([], (cut (endsAuthority .web) s).1)).1
        ((splitLast '@' (cut (endsAuthority .web) s).1).getD ([], (cut (endsAuthority .web) s).1)).2
        (cut (endsAuthority .web) s).2 := by
  unfold readAuthority authorityOf
  generalize cut (endsAuthority .web) s = pieces
  obtain ⟨all, after⟩ := pieces
  dsimp only
  generalize (splitLast '@' all).isSome = named
  generalize (splitLast '@' all).getD ([], all) = parts
  obtain ⟨user, place⟩ := parts
  dsimp only
  generalize cutHost false place = cutoff
  obtain ⟨hostText, portText⟩ := cutoff
  dsimp only
  by_cases hplace : user.isEmpty ∧ named ∧ place.isEmpty ∧ !after.isEmpty
  · rw [if_pos hplace, if_pos hplace]
    rfl
  rw [if_neg hplace, if_neg hplace]
  by_cases hhost : hostText.isEmpty
  · rw [if_pos ⟨rfl, hhost⟩, if_pos hhost]
    rfl
  rw [if_neg fun h => hhost h.2, if_neg hhost, if_pos (show SchemeKind.web.isSpecial = true from rfl)]
  cases hread : Host.ofWebText hostText with
  | error e => rfl
  | ok host =>
    -- a host of the web is not empty, so what is asked about an empty one does not matter
    have hne := (Host.web_of_ofWebText hread).ne_empty
    show (if host = .name "" ∧ _ then _ else _) = _
    rw [if_neg fun h => hne h.1]
    cases portText with
    | nil => rfl
    | cons c digits =>
      show (readPort scheme (digits ++ after)).bind _ = (readPort scheme (digits ++ after)).map _
      cases readPort scheme (digits ++ after) <;> rfl

/-- An authority of the web is read as one. -/
theorem read_of_readAuthority {scheme : String} {s rest : List Char} {a : Authority}
    (h : readAuthority scheme .web s = .ok (a, rest)) : a.Read scheme := by
  rw [readAuthority_web, authorityOf] at h
  split at h
  · cases h
  split at h
  · cases h
  generalize cutHost false _ = cutoff at h
  obtain ⟨hostText, portText⟩ := cutoff
  cases hread : Host.ofWebText hostText with
  | error e =>
    rw [hread] at h
    cases h
  | ok host =>
    rw [hread] at h
    cases hport : portOf scheme portText (cut (endsAuthority .web) s).2 with
    | error e =>
      simp only [Except.bind, hport] at h
      cases h
    | ok p =>
      simp only [Except.bind, hport] at h
      cases h
      refine ⟨userinfoOf_userinfoOf _, fun c hc => inAuthority_of_mem_userinfoOf hc,
        Host.web_of_ofWebText hread, ?_⟩
      obtain ⟨port, rest⟩ := p
      unfold portOf at hport
      split at hport
      · cases hport
        intro p hp
        cases hp
      · exact port_of_readPort hport

/-! ## Paths -/

theorem not_mem_marks : '/' ∉ Percent.marks ∧ '\\' ∉ Percent.marks := by decide

/-- The characters of a segment that was cut off are those of a segment. -/
theorem plain_of_mem_segmentTexts {s : List Char} {segment : String}
    (h : segment ∈ segmentTexts .web s) :
    ∀ c ∈ segment.toList, Percent.path c = false ∧ c ≠ '/' ∧ c ≠ '\\' := by
  obtain ⟨piece, hpiece, rfl⟩ := List.mem_map.mp h
  intro c hc
  refine ⟨Percent.outside_of_mem_encode Percent.stable_path c hc, ?_, ?_⟩
  · rintro rfl
    obtain hmark | hmem := Percent.mem_encode hc
    · exact not_mem_marks.1 hmark
    · exact Text.not_mem_of_mem_splitAll hpiece hmem
  · rintro rfl
    obtain hmark | hmem := Percent.mem_encode hc
    · exact not_mem_marks.2 hmark
    · have hslashed : '\\' ∈ s.map fun c => if c = '\\' then '/' else c :=
        Text.mem_of_mem_splitAll hpiece hmem
      obtain ⟨x, -, hx⟩ := List.mem_map.mp hslashed
      split at hx
      · cases hx
      · exact absurd hx ‹_›

theorem segmentTexts_ne_nil (k : SchemeKind) (s : List Char) : segmentTexts k s ≠ [] := by
  unfold segmentTexts
  rw [ne_eq, List.map_eq_nil_iff]
  exact Text.splitAll_ne_nil _ _

theorem segmentRead_empty : SegmentRead "" := by
  refine ⟨fun c hc => ?_, by decide, by decide⟩
  cases hc

theorem mem_of_mem_dropSegment {done : List String} {s : String} (h : s ∈ dropSegment done) :
    s ∈ done := by
  unfold dropSegment at h
  split at h
  · split at h
    · exact h
    · exact List.dropLast_subset _ h
  · cases h

/-- Segments are resolved to segments, and at least one is left. -/
theorem segmentsRead_resolveSegments {done texts : List String} (hdone : ∀ s ∈ done, SegmentRead s)
    (htexts : ∀ s ∈ texts, ∀ c ∈ s.toList, Percent.path c = false ∧ c ≠ '/' ∧ c ≠ '\\') :
    (∀ s ∈ resolveSegments done texts, SegmentRead s) ∧
      (texts ≠ [] → resolveSegments done texts ≠ []) := by
  have hpush {done : List String} (hdone : ∀ s ∈ done, SegmentRead s) {s : String} (hs : SegmentRead s) :
      ∀ t ∈ done ++ [s], SegmentRead t := by
    intro t ht
    obtain hold | hnew := List.mem_append.mp ht
    · exact hdone t hold
    · rw [List.mem_singleton.mp hnew]
      exact hs
  have hdrop {done : List String} (hdone : ∀ s ∈ done, SegmentRead s) :
      ∀ s ∈ dropSegment done, SegmentRead s := fun s hs => hdone s (mem_of_mem_dropSegment hs)
  induction done, texts using resolveSegments.induct with
  | case1 done => exact ⟨hdone, fun hne => absurd rfl hne⟩
  | case2 done s htwo =>
    rw [resolveSegments, if_pos htwo]
    exact ⟨hpush (hdrop hdone) segmentRead_empty, fun _ => by simp⟩
  | case3 done s htwo hone =>
    rw [resolveSegments, if_neg htwo, if_pos hone]
    exact ⟨hpush hdone segmentRead_empty, fun _ => by simp⟩
  | case4 done s htwo hone =>
    rw [resolveSegments, if_neg htwo, if_neg hone]
    have hs : SegmentRead s :=
      ⟨htexts s List.mem_cons_self, by simpa using hone, by simpa using htwo⟩
    exact ⟨hpush hdone hs, fun _ => by simp⟩
  | case5 done s r hr htwo ih =>
    rw [resolveSegments, if_pos htwo]
    · obtain ⟨hread, hne⟩ := ih (hdrop hdone) fun t ht => htexts t (List.mem_cons_of_mem _ ht)
      exact ⟨hread, fun _ => hne hr⟩
    · exact hr
  | case6 done s r hr htwo hone ih =>
    rw [resolveSegments, if_neg htwo, if_pos hone]
    · obtain ⟨hread, hne⟩ := ih hdone fun t ht => htexts t (List.mem_cons_of_mem _ ht)
      exact ⟨hread, fun _ => hne hr⟩
    · exact hr
  | case7 done s r hr htwo hone ih =>
    rw [resolveSegments, if_neg htwo, if_neg hone]
    · have hs : SegmentRead s :=
        ⟨htexts s List.mem_cons_self, by simpa using hone, by simpa using htwo⟩
      obtain ⟨hread, hne⟩ := ih (hpush hdone hs) fun t ht => htexts t (List.mem_cons_of_mem _ ht)
      exact ⟨hread, fun _ => hne hr⟩
    · exact hr

theorem segmentsRead_pathAfterAuthority (s : List Char) :
    ∃ segments, pathAfterAuthority .web s = .segments segments ∧ segments ≠ [] ∧
      ∀ segment ∈ segments, SegmentRead segment := by
  unfold pathAfterAuthority
  split
  · exact ⟨[""], rfl, by simp, fun t ht => by rw [List.mem_singleton.mp ht]; exact segmentRead_empty⟩
  next c r =>
    generalize (if c = '/' ∨ (SchemeKind.web.isSpecial ∧ c = '\\') then r else c :: r) = inner
    obtain ⟨hread, hne⟩ := segmentsRead_resolveSegments (List.forall_mem_nil SegmentRead)
      fun segment => plain_of_mem_segmentTexts (s := inner)
    exact ⟨_, rfl, hne (segmentTexts_ne_nil _ _), hread⟩

/-! ## Queries and fragments -/

theorem outside_of_readEnd {s : List Char} {query fragment : Option String}
    (h : readEnd .web s = (query, fragment)) :
    (∀ q, query = some q → ∀ c ∈ q.toList, Percent.webQuery c = false) ∧
      ∀ f, fragment = some f → ∀ c ∈ f.toList, Percent.fragment c = false := by
  unfold readEnd at h
  dsimp only at h
  split at h
  · cases h
    refine ⟨fun q hq => ?_, fun f hf => ?_⟩
    · cases hq
      exact Percent.outside_of_mem_encode Percent.stable_webQuery
    · split at hf
      · cases hf
        exact Percent.outside_of_mem_encode Percent.stable_fragment
      · cases hf
  · cases h
    refine ⟨fun q hq => (by cases hq), fun f hf => ?_⟩
    split at hf
    · cases hf
      exact Percent.outside_of_mem_encode Percent.stable_fragment
    · cases hf

/-! ## URLs -/

/-- A URL of the web from its authority and what follows that. -/
def webUrl (scheme : String) (a : Authority) (rest : List Char) : Url :=
  ⟨scheme, some a, pathAfterAuthority .web (cut endsPath rest).1,
    (readEnd .web (cut endsPath rest).2).1, (readEnd .web (cut endsPath rest).2).2⟩

theorem readWeb_eq (scheme : String) (s : List Char) :
    readWeb scheme s =
      (readAuthority scheme .web (s.dropWhile fun c => c == '/' || c == '\\')).map fun p =>
        webUrl scheme p.1 p.2 := by
  unfold readWeb
  cases readAuthority scheme .web (s.dropWhile fun c => c == '/' || c == '\\') <;> rfl

/-- A URL of the web is read as one. -/
theorem read_of_readWeb {scheme : String} (hscheme : SchemeKind.ofScheme scheme = .web) {s : List Char}
    {u : Url} (h : readWeb scheme s = .ok u) : ∃ a segments, u.Read a segments := by
  rw [readWeb_eq] at h
  cases hauthority : readAuthority scheme .web (s.dropWhile fun c => c == '/' || c == '\\') with
  | error e =>
    rw [hauthority] at h
    cases h
  | ok pair =>
    obtain ⟨a, rest⟩ := pair
    rw [hauthority] at h
    cases h
    obtain ⟨segments, hpath, hne, hsegments⟩ := segmentsRead_pathAfterAuthority (cut endsPath rest).1
    obtain ⟨hquery, hfragment⟩ := outside_of_readEnd (s := (cut endsPath rest).2) rfl
    exact ⟨a, segments, hscheme, rfl, read_of_readAuthority hauthority, hpath, hne, hsegments,
      hquery, hfragment⟩

theorem scheme_of_readOther {scheme : String} {s : List Char} {u : Url}
    (h : readOther scheme s = .ok u) : u.scheme = scheme := by
  unfold readOther at h
  split at h
  next r =>
    cases hauthority : readAuthority scheme .other r with
    | error e =>
      rw [hauthority] at h
      cases h
    | ok pair =>
      rw [hauthority] at h
      cases h
      rfl
  · cases h
    rfl
  · cases h
    rfl

theorem scheme_of_readFile {s : List Char} {u : Url} (h : readFile s = .ok u) : u.scheme = "file" := by
  unfold readFile at h
  split at h
  · cases h
    rfl
  · split at h
    · cases h
      rfl
    next r _ =>
      dsimp only at h
      generalize cut (fun c => isSlash c || endsPath c) r = pieces at h
      obtain ⟨hostText, rest⟩ := pieces
      dsimp only at h
      split at h
      · cases h
        rfl
      · split at h
        · cases h
          rfl
        · cases hhost : Host.ofWebText (unbroken hostText) with
          | error e =>
            rw [hhost] at h
            cases h
          | ok host =>
            rw [hhost] at h
            change (if host = .name "localhost" then _ else _) = _ at h
            split at h <;> cases h <;> rfl

/-- What is read with a scheme of the web is a URL of the web. -/
theorem read_of_parse {text : String} {u : Url} (h : parse text = .ok u)
    (hscheme : SchemeKind.ofScheme u.scheme = .web) : ∃ a segments, u.Read a segments := by
  unfold parse at h
  split at h
  · cases h
  next scheme rest hfound =>
    cases hkind : SchemeKind.ofScheme scheme with
    | web =>
      rw [hkind] at h
      exact read_of_readWeb hkind h
    | file =>
      rw [hkind] at h
      rw [scheme_of_readFile h] at hscheme
      cases hscheme
    | other =>
      rw [hkind] at h
      rw [scheme_of_readOther h, hkind] at hscheme
      cases hscheme

end Url

end CallChain
