/-
Paths, resolved without looking at what is there.  A relative path climbs some
levels and then descends, and where it leads from a directory follows from
these two parts.
-/
import Mathlib.Data.List.DropRight
import Mathlib.Data.List.Induction
import Mathlib.Tactic

namespace Paths

universe u

variable {ν : Type u}

/-- A component of a path. -/
inductive Component (ν : Type u) where
  | current
  | parent
  | child (name : ν)
deriving DecidableEq, Repr

/-- Go on to a component.  The parent of the root is the root. -/
def follow (dir : List ν) : Component ν → List ν
  | .current => dir
  | .parent => dir.dropLast
  | .child name => dir ++ [name]

/-- Where a path leads from a directory. -/
def resolve (dir : List ν) (components : List (Component ν)) : List ν :=
  components.foldl follow dir

/-- A path in normal form: so many levels up, then down. -/
structure Relative (ν : Type u) where
  ups : Nat
  downs : List ν
deriving DecidableEq, Repr

namespace Relative

/-- One component more. -/
def follow (path : Relative ν) : Component ν → Relative ν
  | .current => path
  | .parent =>
      match path.downs with
      | [] => ⟨path.ups + 1, []⟩
      | _ :: _ => ⟨path.ups, path.downs.dropLast⟩
  | .child name => ⟨path.ups, path.downs ++ [name]⟩

end Relative

def normalForm (components : List (Component ν)) : Relative ν :=
  components.foldl Relative.follow ⟨0, []⟩

theorem resolve_append (dir : List ν) (first second : List (Component ν)) :
    resolve dir (first ++ second) = resolve (resolve dir first) second :=
  List.foldl_append ..

theorem dropLast_rdrop (dir : List ν) (n : Nat) : (dir.rdrop n).dropLast = dir.rdrop (n + 1) := by
  rw [List.rdrop, List.rdrop, List.dropLast_eq_take, List.take_take, List.length_take]
  congr 1
  omega

/-- A path leads where its normal form leads. -/
theorem resolve_eq (dir : List ν) (components : List (Component ν)) :
    resolve dir components =
      dir.rdrop (normalForm components).ups ++ (normalForm components).downs := by
  induction components using List.reverseRecOn with
  | nil => simp [resolve, normalForm]
  | append_singleton components component ih =>
      have hresolve : resolve dir (components ++ [component]) =
          follow (resolve dir components) component := by simp [resolve]
      have hnormal : normalForm (components ++ [component]) =
          (normalForm components).follow component := by simp [normalForm]
      rw [hresolve, hnormal, ih]
      cases component with
      | current => rfl
      | child name => simp [follow, Relative.follow]
      | parent =>
          cases hdowns : (normalForm components).downs with
          | nil => simp [follow, Relative.follow, hdowns, dropLast_rdrop]
          | cons first rest =>
              simp only [follow, Relative.follow, hdowns]
              rw [List.dropLast_append_of_ne_nil (List.cons_ne_nil first rest)]

/-- A path leads to an entry of the directory it starts from when it descends
by as many of the directory's levels as it has climbed, and one more. -/
theorem resolve_eq_concat_iff {dir : List ν} {components : List (Component ν)} {name : ν} :
    resolve dir components = dir ++ [name] ↔
      (normalForm components).downs =
        dir.drop (dir.length - (normalForm components).ups) ++ [name] := by
  have hdir : dir.rdrop (normalForm components).ups ++
      dir.drop (dir.length - (normalForm components).ups) = dir := by
    rw [List.rdrop]
    exact List.take_append_drop ..
  rw [resolve_eq]
  conv_lhs =>
    rhs
    rw [← hdir, List.append_assoc]
  exact List.append_right_inj _

/-! Paths as text. -/

/-- What is between two slashes. -/
def component (text : List Char) : Component String :=
  if text = [] ∨ text = ['.'] then .current
  else if text = ['.', '.'] then .parent
  else .child (String.ofList text)

def components (path : List Char) : List (Component String) := (path.splitOn '/').map component

/-- The file that an absolute path denotes. -/
def normalizePath (path : String) : List String := resolve [] (components path.toList)

theorem components_append (first second : List Char) :
    components (first ++ '/' :: second) = components first ++ components second := by
  rw [components, List.splitOn_append_cons_self, List.map_append]
  rfl

end Paths
