/-
# Normalization — normal values are as valid as the values they come from

Normalizing goes down a value by its type, and replaces nothing but paths by
their normal forms (`ValueType.normalizes_normalize`).  Which paths these are
depends on the type: on the collections and members that the way to them leads
through, and on which alternative accepts a value first.  Validity does not
depend on it: whichever paths are replaced, a value that was accepted still is
(`ValueType.validate_of_normalizes`).
-/
import TypeSchema.Proofs.FileTree
import TypeSchema.Proofs.ValueType.Acceptance
import TypeSchema.Proofs.ValueType.Construction
import TypeSchema.ValueType.Normalization

namespace TypeSchema

/-! ## Normal forms of paths -/

/-- The normal form of a path that leads to something leads to something of the
same sort. -/
structure FileTree.Canonicalizes (files : FileTree) : Prop where
  hasPath : ∀ p, files.hasPath p = true → files.hasPath (files.normalize p) = true
  isFile : ∀ p, files.hasPath p = true → files.isFile (files.normalize p) = files.isFile p
  isDirectory : ∀ p, files.hasPath p = true →
    files.isDirectory (files.normalize p) = files.isDirectory p

namespace FileTree

variable {files : FileTree} {p : Path}

theorem IsConnected.canonicalizes (connected : files.IsConnected) : files.Canonicalizes := by
  have same : ∀ p, files.hasPath p = true → files.find? (files.normalize p) = files.find? p := by
    intro p h
    obtain ⟨e, he⟩ := Option.isSome_iff_exists.mp h
    rw [he, connected.find?_normalize he]
  refine ⟨fun p h => ?_, fun p h => ?_, fun p h => ?_⟩
  · rw [hasPath, same p h]
    exact h
  · rw [isFile, same p h, isFile]
  · rw [isDirectory, same p h, isDirectory]

theorem hasPath_of_isFile (h : files.isFile p = true) : files.hasPath p = true := by
  cases found : files.find? p with
  | none => simp [isFile, found] at h
  | some e => simp [hasPath, found]

theorem hasPath_of_isDirectory (h : files.isDirectory p = true) : files.hasPath p = true := by
  cases found : files.find? p with
  | none => simp [isDirectory, found] at h
  | some e => simp [hasPath, found]

end FileTree

theorem FilenameLimits.accept_eq_ok {files : FileTree} {l : FilenameLimits} {p : Path} :
    l.accept files p = .ok () ↔ (l.ensureExists = true →
      (l.matchAny = true → files.hasPath p = true) ∧
        (l.matchAny = false → files.isFile p = true)) := by
  unfold FilenameLimits.accept
  cases l.ensureExists <;> cases l.matchAny <;> simp

theorem acceptDirectory_eq_ok {files : FileTree} {ensureExists : Bool} {p : Path} :
    acceptDirectory files ensureExists p = .ok () ↔
      (ensureExists = true → files.isDirectory p = true) := by
  unfold acceptDirectory
  cases ensureExists <;> simp

section Limits

variable {files : FileTree} (canonical : files.Canonicalizes) {p : Path}
include canonical

theorem FilenameLimits.accept_normalize {l : FilenameLimits} (h : l.accept files p = .ok ()) :
    l.accept files (files.normalize p) = .ok () := by
  rw [accept_eq_ok] at h ⊢
  intro exist
  obtain ⟨any, file⟩ := h exist
  refine ⟨fun hany => canonical.hasPath p (any hany), fun hfile => ?_⟩
  rw [canonical.isFile p (FileTree.hasPath_of_isFile (file hfile))]
  exact file hfile

theorem acceptDirectory_normalize {ensureExists : Bool}
    (h : acceptDirectory files ensureExists p = .ok ()) :
    acceptDirectory files ensureExists (files.normalize p) = .ok () := by
  rw [acceptDirectory_eq_ok] at h ⊢
  intro exist
  rw [canonical.isDirectory p (FileTree.hasPath_of_isDirectory (h exist))]
  exact h exist

end Limits

/-! ## Values up to paths -/

/-- The second value is the first one with some of the paths in it, if any, in
their normal forms. -/
inductive Value.Normalizes (files : FileTree) : Value → Value → Prop
  | same (v : Value) : Normalizes files v v
  | path (p : Path) : Normalizes files (.path p) (.path (files.normalize p))
  | list {items items' : List Value} (inside : List.Forall₂ (Normalizes files) items items') :
      Normalizes files (.list items) (.list items')
  | object {fields fields' : List (String × Value)}
      (names : fields.map (·.1) = fields'.map (·.1))
      (inside : List.Forall₂ (Normalizes files) (fields.map (·.2)) (fields'.map (·.2))) :
      Normalizes files (.object fields) (.object fields')
  | map {entries entries' : List (String × Value)}
      (names : entries.map (·.1) = entries'.map (·.1))
      (inside : List.Forall₂ (Normalizes files) (entries.map (·.2)) (entries'.map (·.2))) :
      Normalizes files (.map entries) (.map entries')

theorem Value.normalizes_normalizePath (files : FileTree) (v : Value) :
    v.Normalizes files (v.normalizePath files) := by
  cases v with
  | path p => exact .path p
  | _ => exact .same _

/-- Names stay in place where every field is normalized by itself. -/
theorem Value.normalizes_fields {files : FileTree} {f : String → Value → Value}
    (each : ∀ n v, Value.Normalizes files v (f n v)) (fields : List (String × Value)) :
    (fields.map fun (n, v) => (n, f n v)).map (·.1) = fields.map (·.1) ∧
      List.Forall₂ (Value.Normalizes files) (fields.map (·.2))
        ((fields.map fun (n, v) => (n, f n v)).map (·.2)) := by
  rw [List.map_map, List.map_map]
  refine ⟨rfl, ?_⟩
  rw [List.forall₂_map_left_iff, List.forall₂_map_right_iff]
  exact List.forall₂_same.mpr fun field _ => each field.1 field.2

mutual

/-- Normalizing by a type replaces nothing but paths. -/
theorem ValueType.normalizes_normalize (files : FileTree) :
    ∀ (t : ValueType) (v : Value), v.Normalizes files (t.normalize files v)
  | .mk kind arity _, v => by
      unfold ValueType.normalize
      split
      · exact .same _
      · rename_i items
        split
        · refine .list ?_
          rw [List.forall₂_map_right_iff]
          exact List.forall₂_same.mpr fun item _ => kind.normalizes_normalize files item
        · exact kind.normalizes_normalize files _
      · exact kind.normalizes_normalize files _

theorem Kind.normalizes_normalize (files : FileTree) :
    ∀ (k : Kind) (v : Value), v.Normalizes files (k.normalize files v)
  | .filename _, v | .directory _, v => by
      rw [Kind.normalize]
      exact v.normalizes_normalizePath files
  | .object members _, v | .dict members _, v => by
      unfold Kind.normalize
      have fields := Value.normalizes_fields (Member.normalizes_normalizeField files members)
      split
      · rename_i fs
        exact .object (fields fs).1.symm (fields fs).2
      · rename_i entries
        exact .map (fields entries).1.symm (fields entries).2
      · exact .same _
  | .anyOf alternatives, v => by
      rw [Kind.normalize]
      exact ValueType.normalizes_normalizeAny files alternatives v
  | .bool, v | .int _, v | .number _, v | .string _, v | .enumeration _, v | .date, v | .time, v
  | .dateTime, v | .duration, v | .guid, v | .uri, v => .same v

theorem Member.normalizes_normalizeField (files : FileTree) :
    ∀ (members : List Member) (n : String) (v : Value),
      v.Normalizes files (Member.normalizeField files members n v)
  | [], _, v => .same v
  | .mk name type :: rest, n, v => by
      rw [Member.normalizeField]
      split
      · exact type.normalizes_normalize files v
      · exact Member.normalizes_normalizeField files rest n v

theorem ValueType.normalizes_normalizeAny (files : FileTree) :
    ∀ (alternatives : List ValueType) (v : Value),
      v.Normalizes files (ValueType.normalizeAny files alternatives v)
  | [], v => .same v
  | t :: rest, v => by
      rw [ValueType.normalizeAny]
      split
      · exact t.normalizes_normalize files v
      · exact ValueType.normalizes_normalizeAny files rest v

end

/-! ## Validity -/

section Validity

variable {files : FileTree} {v v' : Value}

/-- What stays true of a value when paths in it are normalized stays true of all items. -/
theorem Value.forall_mem_of_normalizes {p : Value → Prop} {items items' : List Value}
    (stays : ∀ w w', Value.Normalizes files w w' → p w → p w')
    (inside : List.Forall₂ (Value.Normalizes files) items items') (h : ∀ w ∈ items, p w) :
    ∀ w ∈ items', p w := by
  induction inside with
  | nil => exact h
  | cons first _ ih =>
      obtain ⟨here, later⟩ := List.forall_mem_cons.mp h
      exact List.forall_mem_cons.mpr ⟨stays _ _ first here, ih later⟩

/-- What a name stands for is the same up to paths. -/
theorem Value.normalizes_find? {fields fields' : List (String × Value)}
    (names : fields.map (·.1) = fields'.map (·.1))
    (inside : List.Forall₂ (Value.Normalizes files) (fields.map (·.2)) (fields'.map (·.2)))
    (name : String) : Value.Normalizes files ((Fields.find? name fields).getD .null)
      ((Fields.find? name fields').getD .null) := by
  induction fields generalizing fields' with
  | nil =>
      obtain rfl := List.map_eq_nil_iff.mp names.symm
      exact .same .null
  | cons field fields ih =>
      cases fields' with
      | nil => cases names
      | cons field' fields' =>
          obtain ⟨n, w⟩ := field
          obtain ⟨n', w'⟩ := field'
          obtain ⟨rfl, later⟩ := List.cons.inj names
          obtain ⟨first, inside⟩ := List.forall₂_cons.mp inside
          rw [Fields.find?, Fields.find?]
          split
          · exact first
          · exact ih later inside

theorem Member.Admit.normalizes {members : List Member} {exact : Bool}
    {fields fields' : List (String × Value)}
    (accepts : ∀ t ∈ members.map (·.type), ∀ v v', Value.Normalizes files v v' →
      t.validate files v = .ok () → t.validate files v' = .ok ())
    (names : fields.map (·.1) = fields'.map (·.1))
    (inside : List.Forall₂ (Value.Normalizes files) (fields.map (·.2)) (fields'.map (·.2)))
    (admitted : Member.Admit files members exact fields) :
    Member.Admit files members exact fields' := by
  obtain ⟨each, extra⟩ := admitted
  refine ⟨fun m hm => ?_, fun he f hf => ?_⟩
  · exact accepts m.type (List.mem_map_of_mem hm) _ _
      (Value.normalizes_find? names inside m.name) (each m hm)
  · have named : f.1 ∈ fields.map (·.1) := names ▸ List.mem_map_of_mem hf
    obtain ⟨f', hf', same⟩ := List.mem_map.mp named
    exact same ▸ extra he f' hf'

section Canonical

variable (canonical : files.Canonicalizes)
include canonical

/-- A kind goes on accepting a value when paths in it are normalized, if its
parts do. -/
theorem Kind.accept_of_normalizes {k : Kind}
    (inside : ∀ t ∈ k.parts, ∀ v v', Value.Normalizes files v v' →
      t.validate files v = .ok () → t.validate files v' = .ok ())
    (related : v.Normalizes files v') (h : k.accept files v = .ok ()) :
    k.accept files v' = .ok () := by
  cases k with
  | filename l =>
      cases related with
      | same => exact h
      | path p =>
          rw [accept] at h ⊢
          exact FilenameLimits.accept_normalize canonical h
      | _ => simp [accept, mismatch] at h
  | directory e =>
      cases related with
      | same => exact h
      | path p =>
          rw [accept] at h ⊢
          exact acceptDirectory_normalize canonical h
      | _ => simp [accept, mismatch] at h
  | object members exact =>
      obtain ⟨fields, rfl, admitted⟩ := accept_object_eq_ok.mp h
      cases related with
      | same => exact h
      | object names fields =>
          exact accept_object_eq_ok.mpr ⟨_, rfl, admitted.normalizes inside names fields⟩
  | dict members exact =>
      obtain ⟨fields, rfl, admitted⟩ := accept_dict_eq_ok.mp h
      cases related with
      | same => exact h
      | map names entries =>
          exact accept_dict_eq_ok.mpr ⟨_, rfl, admitted.normalizes inside names entries⟩
  | anyOf alternatives =>
      obtain ⟨t, ht, valid⟩ := accept_anyOf_eq_ok.mp h
      exact accept_anyOf_eq_ok.mpr ⟨t, ht, inside t ht v v' related valid⟩
  | _ =>
      -- no other kind accepts a path, or a value with others in it
      cases related with
      | same => exact h
      | _ => simp [accept, mismatch] at h

/-- A value that is accepted is accepted with any of its paths normalized. -/
theorem ValueType.validate_of_normalizes {t : ValueType} (free : t.Throughout (·.hook = none)) :
    ∀ v v', Value.Normalizes files v v' → t.validate files v = .ok () →
      t.validate files v' = .ok () := by
  induction free with
  | @intro t here _ ih =>
      obtain ⟨k, a, hook⟩ := t
      obtain rfl : hook = none := here
      intro v v' related h
      have item : ∀ {w w'}, Value.Normalizes files w w' → k.accept files w = .ok () →
          k.accept files w' = .ok () := Kind.accept_of_normalizes canonical ih
      by_cases there : v = .null
      · subst there
        cases related with
        | same => exact h
      · have there' : v' ≠ .null := by
          rintro rfl
          cases related with
          | same => exact there rfl
        cases collection : a.isCollection with
        | true =>
            obtain ⟨items, rfl, count, each⟩ := (validate_collection collection there).mp h
            cases related with
            | same => exact h
            | @list _ items' inside =>
                refine (validate_collection collection there').mpr ⟨items', rfl, ?_, ?_⟩
                · rw [← inside.length_eq]
                  exact count
                · exact Value.forall_mem_of_normalizes (fun _ _ => item) inside each
        | false =>
            obtain ⟨single, valid⟩ := (validate_single collection there).mp h
            refine (validate_single collection there').mpr ⟨?_, item related valid⟩
            cases related with
            | same => exact single
            | list => cases single
            | _ => rfl

/-- Normalizing a valid value gives a valid value, and changes nothing in it but
paths, each into its normal form. -/
theorem ValueType.validate_normalize {t : ValueType} (free : t.Throughout (·.hook = none))
    (valid : t.validate files v = .ok ()) :
    t.validate files (t.normalize files v) = .ok () ∧
      v.Normalizes files (t.normalize files v) := by
  have related := t.normalizes_normalize files v
  exact ⟨validate_of_normalizes canonical free v _ related valid, related⟩

end Canonical

end Validity

/-- A file and a list of a directory and a name, where the name is no directory. -/
theorem ValueType.validate_normalize_relative :
    let files : FileTree := ⟨[(["home", "log"], .file .empty)], ["home"]⟩
    let places : Kind := .anyOf
      [.mk (.directory true) .single none, .mk (.filename ⟨false, false⟩) .single none]
    let t : ValueType := .mk (.object [.mk "file" (.mk (.filename ⟨true, false⟩) .single none),
      .mk "places" (.mk places .zeroOrMore none)] true) .single none
    let v : Value := .object [("file", .path ⟨"./log"⟩),
      ("places", .list [.path ⟨"../home"⟩, .path ⟨"log"⟩])]
    files.Canonicalizes ∧ t.Throughout (·.hook = none) ∧ t.validate files v = .ok () ∧
      t.normalize files v = .object [("file", .path ⟨"/home/log"⟩),
        ("places", .list [.path ⟨"/home"⟩, .path ⟨"/home/log"⟩])] ∧
      t.validate files (t.normalize files v) = .ok () ∧
      v.Normalizes files (t.normalize files v) := by
  intro files places t v
  have canonical : files.Canonicalizes := by
    refine FileTree.IsConnected.canonicalizes ⟨FileTree.Reached.root.into ?_ ?_, ?_⟩
    · rfl
    · decide
    · rfl
  have free : t.Throughout (·.hook = none) := by
    refine .intro rfl (List.forall_mem_cons.mpr ⟨.flat rfl rfl, List.forall_mem_singleton.mpr ?_⟩)
    exact .intro rfl (List.forall_mem_cons.mpr ⟨.flat rfl rfl,
      List.forall_mem_singleton.mpr (.flat rfl rfl)⟩)
  have valid : t.validate files v = .ok () := rfl
  exact ⟨canonical, free, valid, rfl, validate_normalize canonical free valid⟩

end TypeSchema
