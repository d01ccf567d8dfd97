import VersionedApi.Proofs.Description.Arena

/-!
# What a reference denotes

The text of a reference, read mark by mark, and a number, followed through
lists and maps, agree if every mark meets a list or map of its kind and the
name at the end meets a named type.  Resolving a reference whose name is known
leads to a number that agrees with it, and goes on doing so.
-/

namespace VersionedApi.Description

open VersionedApi.Model VersionedApi.Text

/-- The text of a reference agrees with a number among whose types the first `count` are named. -/
inductive Denotes (count : Nat) (version : Version) : List Char → TypeId → Prop where
  | list {text element : List Char} {id inner : TypeId} {type : ApiType}
      (mark : trim text = TypeReference.listMark ++ element)
      (found : version.type? id = some type) (kind : type.kind = .list inner)
      (rest : Denotes count version element inner) : Denotes count version text id
  | map {text element : List Char} {id inner : TypeId} {type : ApiType}
      (mark : trim text = TypeReference.mapMark ++ element)
      (found : version.type? id = some type) (kind : type.kind = .map inner)
      (rest : Denotes count version element inner) : Denotes count version text id
  | named {text : List Char} {id : TypeId} {type : ApiType}
      (noList : ¬ TypeReference.listMark <+: trim text)
      (noMap : ¬ TypeReference.mapMark <+: trim text)
      (early : id.index < count) (found : version.type? id = some type)
      (name : type.name = Name.ofText (String.ofList (trim text))) :
      Denotes count version text id

/-- A number that agrees with a reference agrees with it whatever is loaded later. -/
theorem Denotes.keep {count : Nat} {before after : Version} (keeps : Keeps before after)
    {text : List Char} {id : TypeId} (denotes : Denotes count before text id) :
    Denotes count after text id := by
  induction denotes with
  | list mark found kind rest ih =>
      obtain ⟨later, foundLater, -, same⟩ := keeps.type found
      refine .list mark foundLater ?_ ih
      rw [same (by rw [kind]; rfl), kind]
  | map mark found kind rest ih =>
      obtain ⟨later, foundLater, -, same⟩ := keeps.type found
      refine .map mark foundLater ?_ ih
      rw [same (by rw [kind]; rfl), kind]
  | named noList noMap early found name =>
      obtain ⟨later, foundLater, sameName, -⟩ := keeps.type found
      exact .named noList noMap early foundLater (sameName.trans name)

theorem afterMark?_eq_some_iff {mark text rest : List Char} :
    TypeReference.afterMark? mark text = some rest ↔ text = mark ++ rest := by
  unfold TypeReference.afterMark?
  constructor
  · intro found
    split at found
    · rename_i leads
      obtain ⟨tail, rfl⟩ := List.isPrefixOf_iff_prefix.1 leads
      simpa using found
    · cases found
  · rintro rfl
    simp

theorem afterMark?_eq_none_iff {mark text : List Char} :
    TypeReference.afterMark? mark text = none ↔ ¬ mark <+: text := by
  simp [TypeReference.afterMark?, List.isPrefixOf_iff_prefix]

namespace TypeReference

theorem ofCharacters_list {text element : List Char}
    (mark : afterMark? listMark (trim text) = some element) :
    ofCharacters text = list (ofCharacters element) := by
  rw [ofCharacters]
  split
  · next found => rw [Option.some.inj (mark.symm.trans found)]
  · next missing => rw [mark] at missing; cases missing

theorem ofCharacters_map {text element : List Char}
    (noList : afterMark? listMark (trim text) = none)
    (mark : afterMark? mapMark (trim text) = some element) :
    ofCharacters text = map (ofCharacters element) := by
  rw [ofCharacters]
  split
  · next found => rw [noList] at found; cases found
  · split
    · next found => rw [Option.some.inj (mark.symm.trans found)]
    · next missing => rw [mark] at missing; cases missing

theorem ofCharacters_named {text : List Char}
    (noList : afterMark? listMark (trim text) = none)
    (noMap : afterMark? mapMark (trim text) = none) :
    ofCharacters text = named (trim text) := by
  rw [ofCharacters]
  split
  · next found => rw [noList] at found; cases found
  · split
    · next found => rw [noMap] at found; cases found
    · rfl

end TypeReference

/-- Resolving a reference leads to a number that agrees with it if its name is a named type's. -/
theorem Arena.denotes {version after : Version} {named : List ApiType}
    (arena : Arena version named) {text : List Char} {id : TypeId}
    (known : Name.ofText (String.ofList (TypeReference.ofCharacters text).base) ∈
      named.map (·.name))
    (resolved : (TypeReference.ofCharacters text).resolve version = .ok (after, id)) :
    Denotes named.length after text id := by
  induction text using TypeReference.ofCharacters.induct generalizing after id with
  | case1 text element mark ih =>
      rw [TypeReference.ofCharacters_list mark] at known resolved
      obtain ⟨⟨middle, inner⟩, resolvedInner, listed⟩ := map_eq_ok_iff.1 resolved
      obtain ⟨grows, inUse⟩ := arena.resolve resolvedInner
      obtain ⟨further, type, found, kind⟩ := grows.arena.intern rfl inUse listed
      have rest := (ih known resolvedInner).keep further.keeps
      exact .list (afterMark?_eq_some_iff.1 mark) found kind rest
  | case2 text noList element mark ih =>
      rw [TypeReference.ofCharacters_map noList mark] at known resolved
      obtain ⟨⟨middle, inner⟩, resolvedInner, mapped⟩ := map_eq_ok_iff.1 resolved
      obtain ⟨grows, inUse⟩ := arena.resolve resolvedInner
      obtain ⟨further, type, found, kind⟩ := grows.arena.intern rfl inUse mapped
      have rest := (ih known resolvedInner).keep further.keeps
      exact .map (afterMark?_eq_some_iff.1 mark) found kind rest
  | case3 text noList noMap =>
      rw [TypeReference.ofCharacters_named noList noMap] at known resolved
      unfold TypeReference.resolve at resolved
      cases search : version.findType? (Name.ofText (String.ofList (trim text))) with
      | none => simp [search] at resolved
      | some present =>
          simp only [search, Except.ok.injEq, Prod.mk.injEq] at resolved
          obtain ⟨rfl, rfl⟩ := resolved
          obtain ⟨early, type, found, name⟩ := arena.findType?_named known search
          exact .named (afterMark?_eq_none_iff.1 noList) (afterMark?_eq_none_iff.1 noMap)
            early found name

end VersionedApi.Description
