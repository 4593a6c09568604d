/-
# Characters — what a uri that was read is written with

Users, passwords, segments, queries and fragments are encoded, and spaces are
unsafe in all of them.  Hosts are visible as well.  Only a path without segments,
which neither follows an authority nor starts with a slash, keeps its spaces.

So a uri that was read is `IsNormal` (`isNormal_of_ofChars`): it starts with a
scheme, and behind the colon everything is visible except for such spaces
(`IsNormal.isVisible_or_space`).
-/
import Mathlib.Data.List.TakeDrop
import Mathlib.Data.List.TakeWhile
import TypeSchema.Proofs.Uri.Host
import TypeSchema.Uri

namespace TypeSchema.Uri

open Steps

variable {c : Char} {cs : List Char}

/-! ## Authorities -/

/-- The text of an authority is visible if its parts are. -/
theorem isVisible_authorityText {a : Authority} (user : ∀ c ∈ a.user, IsVisible c)
    (password : ∀ p, a.password = some p → ∀ c ∈ p, IsVisible c)
    (host : ∀ c ∈ a.host, IsVisible c) : ∀ c ∈ a.text, IsVisible c := by
  have colon : IsVisible ':' := by decide
  have sign : IsVisible '@' := by decide
  rw [Authority.text]
  simp only [List.forall_mem_append]
  refine ⟨⟨?_, host⟩, ?_⟩
  · split
    case h_1 p hp =>
        simp only [List.forall_mem_append, List.forall_mem_cons]
        exact ⟨⟨user, colon, password p hp⟩, sign, List.forall_mem_nil _⟩
    case h_2 =>
        split
        · exact List.forall_mem_nil _
        · exact List.forall_mem_append.mpr ⟨user, List.forall_mem_singleton.mpr sign⟩
  · split
    · exact List.forall_mem_cons.mpr ⟨colon, fun c => isVisible_of_mem_digits⟩
    · exact List.forall_mem_nil _

theorem isVisible_readCredentials : (∀ c ∈ (readCredentials cs).1, IsVisible c) ∧
    ∀ p, (readCredentials cs).2 = some p → ∀ c ∈ p, IsVisible c := by
  have spaces : ' ' ∈ userUnsafe := by decide
  refine ⟨isVisible_of_mem_encode (.inl spaces), ?_⟩
  intro p hp
  unfold readCredentials at hp
  dsimp only at hp
  split at hp
  · cases hp
    exact isVisible_of_mem_encode (.inl spaces)
  · cases hp

/-- An authority from its parts and what stands behind the host. -/
def closeAuthority (scheme : String) (user : List Char) (password : Option (List Char))
    (host rest : List Char) : Except Fault (Authority × List Char) :=
  if host = [] ∧ rest ≠ [] then .error .emptyHost
  else do
    let (digits, rest) := (rest.drop 1).span (· ≠ '\\')
    let port ← readPort (defaultPort scheme) digits
    if host = [] ∧ (user ≠ [] ∨ password.isSome) then .error .emptyHost
    else return (⟨user, password, host, port⟩, rest)

/-- An authority from its credentials and what stands behind them. -/
def readHost (t : Treatment) (scheme : String) (user : List Char) (password : Option (List Char))
    (cs : List Char) : Except Fault (Authority × List Char) :=
  let (host, rest) := splitHost false cs
  if t = .wellKnown ∧ host = [] then .error .emptyHost
  else if t = .other then do closeAuthority scheme user password (← opaqueHost host) rest
  else do closeAuthority scheme user password (← namedHost host) rest

/-- An authority is read in three steps: credentials, host and port. -/
theorem readAuthority_eq {t : Treatment} {scheme : String} {goesOn : Bool} :
    readAuthority t scheme cs goesOn =
      match splitCredentials cs with
      | none => readHost t scheme [] none cs
      | some ([], rest) =>
        if rest = [] ∧ goesOn then .error .emptyHost else readHost t scheme [] none rest
      | some (credentials, rest) =>
        readHost t scheme (readCredentials credentials).1 (readCredentials credentials).2 rest := by
  unfold readAuthority
  cases splitCredentials cs with
  | none => rfl
  | some parts =>
      obtain ⟨credentials, rest⟩ := parts
      cases credentials with
      | nil =>
          show (if rest = [] ∧ goesOn then _ else _) = if rest = [] ∧ goesOn then _ else _
          split
          · rfl
          · rfl
      | cons a as => rfl

section Authority

variable {t : Treatment} {scheme : String} {user host rest rest' : List Char}
  {password : Option (List Char)} {a : Authority}

theorem closeAuthority_eq_ok (h : closeAuthority scheme user password host rest = .ok (a, rest')) :
    a.user = user ∧ a.password = password ∧ a.host = host := by
  unfold closeAuthority at h
  split at h
  case isTrue => cases h
  case isFalse =>
      obtain ⟨port, -, h⟩ := except_bind_eq_ok.mp h
      split at h
      case isTrue => cases h
      case isFalse =>
          cases h
          exact ⟨rfl, rfl, rfl⟩

theorem readHost_eq_ok (h : readHost t scheme user password cs = .ok (a, rest)) :
    a.user = user ∧ a.password = password ∧ ∀ c ∈ a.host, IsVisible c := by
  unfold readHost at h
  dsimp only at h
  split at h
  case isTrue => cases h
  case isFalse =>
      split at h
      case isTrue =>
          obtain ⟨host, hhost, h⟩ := except_bind_eq_ok.mp h
          obtain ⟨rfl, rfl, rfl⟩ := closeAuthority_eq_ok h
          exact ⟨rfl, rfl, isVisible_of_opaqueHost hhost⟩
      case isFalse =>
          obtain ⟨host, hhost, h⟩ := except_bind_eq_ok.mp h
          obtain ⟨rfl, rfl, rfl⟩ := closeAuthority_eq_ok h
          exact ⟨rfl, rfl, isVisible_of_namedHost hhost⟩

theorem isVisible_of_readAuthority {goesOn : Bool}
    (h : readAuthority t scheme cs goesOn = .ok (a, rest)) : ∀ c ∈ a.text, IsVisible c := by
  have behind : ∀ {user password cs}, readHost t scheme user password cs = .ok (a, rest) →
      (∀ c ∈ user, IsVisible c) → (∀ p, password = some p → ∀ c ∈ p, IsVisible c) →
        ∀ c ∈ a.text, IsVisible c := by
    intro user password cs h huser hpassword
    obtain ⟨rfl, rfl, hhost⟩ := readHost_eq_ok h
    exact isVisible_authorityText huser hpassword hhost
  rw [readAuthority_eq] at h
  split at h
  case h_1 => exact behind h (List.forall_mem_nil _) nofun
  case h_2 =>
      split at h
      case isTrue => cases h
      case isFalse => exact behind h (List.forall_mem_nil _) nofun
  case h_3 => exact behind h isVisible_readCredentials.1 isVisible_readCredentials.2

end Authority

/-! ## Paths -/

section Paths

variable {t : Treatment} {done : List (List Char)} {seg : List Char}

theorem isVisible_of_isNormalDriveLetter (h : isNormalDriveLetter cs) : ∀ c ∈ cs, IsVisible c := by
  unfold isNormalDriveLetter at h
  split at h
  case h_1 c =>
      have letter : c.isAlphanum := by rw [Char.isAlphanum, h, Bool.true_or]
      rw [List.forall_mem_cons, List.forall_mem_singleton]
      exact ⟨isVisible_of_isAlphanum letter, by decide⟩
  case h_2 => cases h

/-- Segments that are visible. -/
def AllVisible (segs : List (List Char)) : Prop := ∀ s ∈ segs, ∀ c ∈ s, IsVisible c

theorem allVisible_shorten (h : AllVisible done) : AllVisible (shorten done) := by
  unfold shorten
  split
  case h_1 => exact h
  case h_2 =>
      split
      · exact h
      · exact (List.forall_mem_cons.mp h).2

theorem allVisible_placeSegment {goesOn : Bool} (h : AllVisible done)
    (hseg : ∀ c ∈ seg, IsVisible c) : AllVisible (placeSegment t done seg goesOn) := by
  have nil : ∀ {segs}, AllVisible segs → AllVisible ([] :: segs) := fun h =>
    List.forall_mem_cons.mpr ⟨List.forall_mem_nil _, h⟩
  unfold placeSegment
  split
  · split
    · exact allVisible_shorten h
    · exact nil (allVisible_shorten h)
  · split
    · split
      · exact h
      · exact nil h
    · split
      · refine List.forall_mem_cons.mpr ⟨?_, h⟩
        rw [List.forall_mem_append, List.forall_mem_singleton]
        exact ⟨fun c hc => hseg c (List.mem_of_mem_take hc), by decide⟩
      · exact List.forall_mem_cons.mpr ⟨hseg, h⟩

/-- However far a path has been read, its segments are visible. -/
theorem allVisible_readSegments (h : AllVisible done) :
    AllVisible (readSegments t done seg cs) := by
  have spaces : ' ' ∈ pathUnsafe := by decide
  have encoded : ∀ {seg}, ∀ c ∈ encode pathUnsafe seg, IsVisible c :=
    isVisible_of_mem_encode (.inl spaces)
  induction cs generalizing done seg with
  | nil => exact allVisible_placeSegment h encoded
  | cons c cs ih =>
      rw [readSegments]
      split
      · exact ih (allVisible_placeSegment h encoded)
      · split
        case isTrue drive =>
            simp only [Bool.and_eq_true] at drive
            exact ih (List.forall_mem_singleton.mpr (isVisible_of_isNormalDriveLetter drive.2))
        case isFalse => exact ih h

theorem isVisible_segmentsText {segs : List (List Char)} (h : AllVisible segs) :
    ∀ c ∈ segmentsText segs, IsVisible c := by
  have slash : IsVisible '/' := by decide
  intro c hc
  obtain ⟨s, hs, hc⟩ := List.mem_flatMap.mp hc
  rcases List.mem_cons.mp hc with rfl | hc
  · exact slash
  · exact h s (List.mem_reverse.mp hs) c hc

theorem isVisible_pathOf : ∀ c ∈ pathOf t cs, IsVisible c := by
  have segs : AllVisible (readSegments t [] [] cs) := allVisible_readSegments (List.forall_mem_nil _)
  unfold pathOf
  dsimp only
  split
  · split
    · exact List.forall_mem_singleton.mpr (by decide)
    case h_2 =>
        refine isVisible_segmentsText fun s hs => segs s ?_
        exact List.mem_reverse.mp ((List.dropWhile_sublist _).subset (List.mem_reverse.mp hs))
  · exact isVisible_segmentsText segs

theorem isVisible_readPath : ∀ c ∈ (readPath t cs).1, IsVisible c := by
  unfold readPath
  dsimp only
  split
  case h_1 =>
      dsimp only
      split
      · exact List.forall_mem_nil _
      · exact List.forall_mem_singleton.mpr (by decide)
  case h_2 => exact isVisible_pathOf

end Paths

/-! ## Uris -/

/-- A letter, and then letters, digits and three marks. -/
def IsScheme (cs : List Char) : Prop :=
  ∃ c rest, cs = c :: rest ∧ c.isAlpha ∧
    ∀ d ∈ rest, d.isAlphanum ∨ d = '+' ∨ d = '-' ∨ d = '.'

/-- Everything in a uri can be seen, except for spaces in a path that neither
follows an authority nor starts with a slash. -/
structure IsNormal (u : Uri) : Prop where
  scheme : IsScheme u.scheme
  authority : ∀ a, u.authority = some a → ∀ c ∈ a.text, IsVisible c
  path : ∀ c ∈ u.path, IsVisible c ∨ c = ' ' ∧ u.authority = none ∧ u.path.head? ≠ some '/'
  query : ∀ q, u.query = some q → ∀ c ∈ q, IsVisible c
  fragment : ∀ f, u.fragment = some f → ∀ c ∈ f, IsVisible c

section Uris

variable {t : Treatment} {scheme path rest : List Char} {authority : Option Authority} {u : Uri}

theorem isVisible_readEnd : (∀ q, (readEnd t cs).1 = some q → ∀ c ∈ q, IsVisible c) ∧
    ∀ f, (readEnd t cs).2 = some f → ∀ c ∈ f, IsVisible c := by
  have query : ' ' ∈ queryUnsafe t := List.mem_append_left _ (by decide)
  have fragment : ' ' ∈ fragmentUnsafe := by decide
  unfold readEnd
  split
  case h_1 =>
      dsimp only
      refine ⟨?_, ?_⟩
      · rintro _ ⟨⟩
        exact isVisible_of_mem_encode (.inl query)
      · intro f hf
        split at hf
        · cases hf
          exact isVisible_of_mem_encode (.inl fragment)
        · cases hf
  case h_2 =>
      refine ⟨nofun, ?_⟩
      rintro _ ⟨⟩
      exact isVisible_of_mem_encode (.inl fragment)
  case h_3 => exact ⟨nofun, nofun⟩

theorem isNormal_build (hscheme : IsScheme scheme)
    (hauthority : ∀ a, authority = some a → ∀ c ∈ a.text, IsVisible c)
    (hpath : ∀ c ∈ path, IsVisible c ∨ c = ' ' ∧ authority = none ∧ path.head? ≠ some '/') :
    (build t scheme authority path rest).IsNormal :=
  ⟨hscheme, hauthority, hpath, isVisible_readEnd.1, isVisible_readEnd.2⟩

/-- A path all of which is visible may follow an authority. -/
theorem isNormal_build_of_isVisible (hscheme : IsScheme scheme)
    (hauthority : ∀ a, authority = some a → ∀ c ∈ a.text, IsVisible c)
    (hpath : ∀ c ∈ path, IsVisible c) : (build t scheme authority path rest).IsNormal :=
  isNormal_build hscheme hauthority fun c hc => .inl (hpath c hc)

theorem isScheme_of_readScheme (h : readScheme cs = some (scheme, rest)) : IsScheme scheme := by
  unfold readScheme at h
  split at h
  case h_1 c more =>
      split at h
      case isTrue letter =>
          dsimp only at h
          split at h
          case h_1 =>
              cases h
              have first : c.isAlphanum := by rw [Char.isAlphanum, letter, Bool.true_or]
              rw [List.span_eq_takeWhile_dropWhile, List.takeWhile_cons_of_pos (by simp [first])]
              refine ⟨c.toLower, _, rfl, toLower_of_isAlphanum (by decide +kernel) first letter, ?_⟩
              intro d hd
              obtain ⟨a, ha, rfl⟩ := List.mem_map.mp hd
              have mark := List.mem_takeWhile_imp ha
              simp only [Bool.or_eq_true, decide_eq_true_eq, or_assoc] at mark
              rcases mark with h | rfl | rfl | rfl
              · exact .inl (toLower_of_isAlphanum (p := Char.isAlphanum) (by decide +kernel) h h)
              · exact .inr (.inl rfl)
              · exact .inr (.inr (.inl rfl))
              · exact .inr (.inr (.inr rfl))
          case h_2 => cases h
      case isFalse => cases h
  case h_2 => cases h

theorem isNormal_of_readWithAuthority (hscheme : IsScheme scheme)
    (h : readWithAuthority t scheme cs = .ok u) : u.IsNormal := by
  obtain ⟨⟨a, rest⟩, hauthority, h⟩ := except_bind_eq_ok.mp h
  cases h
  refine isNormal_build_of_isVisible hscheme ?_ isVisible_readPath
  rintro _ ⟨⟩
  exact isVisible_of_readAuthority hauthority

theorem isNormal_of_readFile (h : readFile cs = .ok u) : u.IsNormal := by
  have file : IsScheme "file".toList := ⟨'f', "ile".toList, rfl, by decide, by simp⟩
  have atHost : ∀ {host path rest}, (∀ c ∈ host, IsVisible c) → (∀ c ∈ path, IsVisible c) →
      (build .file "file".toList (some ⟨[], none, host, none⟩) path rest).IsNormal := by
    intro host path rest hhost hpath
    refine isNormal_build_of_isVisible file ?_ hpath
    rintro _ ⟨⟩
    exact isVisible_authorityText (List.forall_mem_nil _) nofun hhost
  have hostless : ∀ {cs}, readFile.hostless "file".toList cs = .ok u → u.IsNormal := by
    intro cs h
    cases h
    exact atHost (List.forall_mem_nil _) isVisible_pathOf
  -- a host is dropped if it says nothing, or stands in front of a drive
  have kept : ∀ {drive : Bool} {host}, (∀ c ∈ host, IsVisible c) →
      ∀ c ∈ if drive then [] else if host = "localhost".toList then [] else host, IsVisible c := by
    intro drive host hhost
    split
    · exact List.forall_mem_nil _
    · split
      · exact List.forall_mem_nil _
      · exact hhost
  unfold readFile at h
  dsimp only at h
  split at h
  case h_1 =>
      split at h
      case isTrue =>
          split at h
          case isTrue =>
              cases h
              exact atHost (List.forall_mem_nil _) isVisible_pathOf
          case isFalse =>
              split at h
              case isTrue =>
                  cases h
                  exact atHost (kept (List.forall_mem_nil _)) isVisible_readPath
              case isFalse =>
                  obtain ⟨host, hhost, h⟩ := except_bind_eq_ok.mp h
                  cases h
                  exact atHost (kept (isVisible_of_namedHost hhost)) isVisible_readPath
      case isFalse => exact hostless h
  case h_2 => exact hostless h

theorem isNormal_of_readOther (hscheme : IsScheme scheme) (h : readOther scheme cs = .ok u) :
    u.IsNormal := by
  unfold readOther at h
  split at h
  case h_1 => exact isNormal_of_readWithAuthority hscheme h
  case h_2 =>
      cases h
      exact isNormal_build_of_isVisible hscheme nofun isVisible_pathOf
  case h_3 _ noSlash =>
      cases h
      refine isNormal_build hscheme nofun fun c hc => (mem_encode hc).imp_right ?_
      rintro ⟨space, -, -⟩
      refine ⟨space, rfl, head?_encode_ne ?_⟩
      show (splitPath cs).1.head? ≠ some '/'
      rw [splitPath, List.span_eq_takeWhile_dropWhile]
      cases cs with
      | nil => nofun
      | cons c more =>
          rw [List.takeWhile_cons]
          split
          · rintro ⟨⟩
            exact noSlash more rfl
          · nofun

/-- Every uri that is read is normal. -/
theorem isNormal_of_ofChars (h : ofChars cs = .ok u) : u.IsNormal := by
  unfold ofChars at h
  split at h
  case h_1 => cases h
  case h_2 hread =>
      have hscheme := isScheme_of_readScheme hread
      split at h
      case h_1 => exact isNormal_of_readFile h
      case h_2 => exact isNormal_of_readWithAuthority hscheme h
      case h_3 => exact isNormal_of_readOther hscheme h

end Uris

/-! ## Texts -/

/-- What stands behind the colon of the scheme. -/
def body (u : Uri) : List Char := u.toChars.drop (u.scheme.length + 1)

theorem toChars_eq {u : Uri} : u.toChars = u.scheme ++ ':' :: u.body := by
  simp only [body, toChars, List.append_assoc, List.cons_append, List.drop_length_add_append,
    List.drop_succ_cons, List.drop_zero]

/-- What cannot be seen behind the colon is in the path. -/
theorem IsNormal.mem_path {u : Uri} (h : u.IsNormal) (hc : c ∈ u.body) :
    IsVisible c ∨ c ∈ u.path := by
  have slash : IsVisible '/' := by decide
  simp only [body, toChars, List.append_assoc, List.cons_append, List.drop_length_add_append,
    List.drop_succ_cons, List.drop_zero, List.mem_append] at hc
  rcases hc with hc | hc | hc | hc
  · left
    split at hc
    case h_1 a ha =>
        rcases List.mem_cons.mp hc with rfl | hc
        · exact slash
        · rcases List.mem_cons.mp hc with rfl | hc
          · exact slash
          · exact h.authority a ha c hc
    case h_2 =>
        split at hc
        · rcases List.mem_pair.mp hc with rfl | rfl
          · exact slash
          · decide
        · cases hc
  · exact .inr hc
  · left
    split at hc
    case h_1 q hq =>
        rcases List.mem_cons.mp hc with rfl | hc
        · decide
        · exact h.query q hq c hc
    case h_2 => cases hc
  · left
    split at hc
    case h_1 f hf =>
        rcases List.mem_cons.mp hc with rfl | hc
        · decide
        · exact h.fragment f hf c hc
    case h_2 => cases hc

/-- What stands behind the colon can be seen, or is a space of the path. -/
theorem IsNormal.isVisible_or_space {u : Uri} (h : u.IsNormal) (hc : c ∈ u.body) :
    IsVisible c ∨ c = ' ' ∧ ' ' ∈ u.path ∧ u.authority = none ∧ u.path.head? ≠ some '/' := by
  refine (h.mem_path hc).elim .inl fun hpath => ?_
  refine (h.path c hpath).imp_right ?_
  rintro ⟨rfl, alone⟩
  exact ⟨rfl, hpath, alone⟩

end TypeSchema.Uri
