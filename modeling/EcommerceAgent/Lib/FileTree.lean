/-
# File trees with symbolic links

A tree of directories, files and symbolic links.  A walk along a path replaces every link by its
target; it is bounded by the number of links that it follows, since links can run in a circle.  The
lax walk also goes through names that do not exist, as a path library does when it makes a path
real; the strict walk is the one of the operating system.  What a walk returns is canonical: its
names lead straight down and none of them is a link.
-/
import EcommerceAgent.Lib.Path
import Mathlib.Logic.Function.Basic

namespace EcommerceAgent.Lib

/-- What is at a location. -/
inductive Node (β : Type*)
  | dir
  | file (content : β)
  | link (target : List Char)
deriving DecidableEq

/-- A tree of finitely many nodes below the root directory; only directories have entries. -/
structure FileTree (β : Type*) where
  node : Location → Option (Node β)
  locations : List Location
  mem_locations : ∀ {location}, node location ≠ none → location ∈ locations
  root : node [] = some .dir
  closed : ∀ {location name}, node (location ++ [name]) ≠ none → node location = some .dir

namespace FileTree

variable {β : Type*}

/-- The root directory alone. -/
def empty : FileTree β where
  node location := if location = [] then some .dir else none
  locations := [[]]
  mem_locations {location} h := by
    by_contra hmem
    refine h (if_neg fun hnil => hmem ?_)
    rw [hnil]
    exact List.mem_cons_self
  root := if_pos rfl
  closed {location name} h := absurd (if_neg (by simp)) h

lemma empty_root : (empty : FileTree β).node [] = some .dir := rfl

/-- A node in a directory, where there is no directory yet. -/
def put (t : FileTree β) (directory : Location) (name : List Char) (node : Node β)
    (hdir : t.node directory = some .dir) (hnew : t.node (directory ++ [name]) ≠ some .dir) :
    FileTree β where
  node := Function.update t.node (directory ++ [name]) (some node)
  locations := (directory ++ [name]) :: t.locations
  mem_locations {location} h := by
    by_cases hlocation : location = directory ++ [name]
    · rw [hlocation]
      exact List.mem_cons_self
    · rw [Function.update_of_ne hlocation] at h
      exact List.mem_cons_of_mem _ (t.mem_locations h)
  root := by
    rw [Function.update_of_ne (by simp), t.root]
  closed {location name'} h := by
    by_cases hbelow : location ++ [name'] = directory ++ [name]
    · obtain ⟨rfl, -⟩ := List.append_inj' hbelow rfl
      rw [Function.update_of_ne (by simp), hdir]
    · rw [Function.update_of_ne hbelow] at h
      have hlocation : t.node location = some .dir := t.closed h
      have hne : location ≠ directory ++ [name] := by
        rintro rfl
        exact hnew hlocation
      rw [Function.update_of_ne hne, hlocation]

/-- A name that leads down. -/
def IsProper (name : List Char) : Prop := name ≠ [] ∧ name ≠ ['.'] ∧ name ≠ Path.parent

variable (t : FileTree β)

/-- The location is a link. -/
def IsLink (location : Location) : Prop := ∃ target, t.node location = some (.link target)

instance (location : Location) : Decidable (t.IsLink location) :=
  match h : t.node location with
  | some (.link target) => .isTrue ⟨target, h⟩
  | some .dir => .isFalse fun ⟨_, hlink⟩ => by rw [h] at hlink; cases hlink
  | some (.file _) => .isFalse fun ⟨_, hlink⟩ => by rw [h] at hlink; cases hlink
  | none => .isFalse fun ⟨_, hlink⟩ => by rw [h] at hlink; cases hlink

/-- Where the target of a link in a directory starts. -/
def start (directory : Location) (target : List Char) : Location :=
  if target.head? = some '/' then [] else directory

/-- A walk that calls `next` at the first link. -/
def walkTo (strict : Bool) (next : Location → List (List Char) → Option Location) :
    Location → List (List Char) → Option Location
  | here, [] => some here
  | here, part :: rest =>
    if part = [] ∨ part = ['.'] then walkTo strict next here rest
    else if part = Path.parent then walkTo strict next here.dropLast rest
    else
      match t.node (here ++ [part]) with
      | some (.link target) => next (start here target) (Path.split target ++ rest)
      | some .dir => walkTo strict next (here ++ [part]) rest
      | _ => if strict && rest != [] then none else walkTo strict next (here ++ [part]) rest

/-- A walk along the parts of a path that follows at most `links` links. -/
def follow (strict : Bool) : ℕ → Location → List (List Char) → Option Location
  | 0 => t.walkTo strict fun _ _ => none
  | links + 1 => t.walkTo strict (follow strict links)

/-- The names lead straight down and none of them is a link. -/
structure Canonical (location : Location) : Prop where
  proper : ∀ name ∈ location, IsProper name
  noLink : ∀ front, front <+: location → ¬t.IsLink front

/-- `open` for reading: the location of the file and its content. -/
def openFile (links : ℕ) (location : Location) : Option (Location × β) :=
  (t.follow true links [] location).bind fun real =>
    match t.node real with
    | some (.file content) => some (real, content)
    | _ => none

/-- Where the last link of a path leads, and the names that the path goes down from there. -/
def land (links : ℕ) (place : Location) (tail : List (List Char)) :
    List (List Char) → Option (Location × List (List Char))
  | [] => some (place, tail)
  | part :: rest =>
    if part = [] ∨ part = ['.'] then land links place tail rest
    else if part = Path.parent then
      if tail = [] then land links place.dropLast [] rest else land links place tail.dropLast rest
    else
      match t.node (place ++ tail ++ [part]) with
      | some (.link target) =>
        (t.follow false links (start (place ++ tail) target) (Path.split target)).bind fun real =>
          land links real [] rest
      | _ => land links place (tail ++ [part]) rest

variable {t} {strict : Bool} {next next' : Location → List (List Char) → Option Location}
  {here l : Location} {part : List Char} {parts rest : List (List Char)} {links links' : ℕ}

/-! ### One step of a walk -/

lemma walkTo_skip (h : part = [] ∨ part = ['.']) :
    t.walkTo strict next here (part :: rest) = t.walkTo strict next here rest := by
  rw [walkTo, if_pos h]

lemma walkTo_parent : t.walkTo strict next here (Path.parent :: rest) =
    t.walkTo strict next here.dropLast rest := by
  rw [walkTo, if_neg (by decide), if_pos rfl]

lemma walkTo_link (h : IsProper part) {target : List Char}
    (hnode : t.node (here ++ [part]) = some (.link target)) :
    t.walkTo strict next here (part :: rest) =
      next (start here target) (Path.split target ++ rest) := by
  rw [walkTo, if_neg (not_or.mpr ⟨h.1, h.2.1⟩), if_neg h.2.2, hnode]

lemma walkTo_down (h : IsProper part) (hnode : ¬t.IsLink (here ++ [part]))
    (hdir : strict = true → rest ≠ [] → t.node (here ++ [part]) = some .dir) :
    t.walkTo strict next here (part :: rest) = t.walkTo strict next (here ++ [part]) rest := by
  rw [walkTo, if_neg (not_or.mpr ⟨h.1, h.2.1⟩), if_neg h.2.2]
  have hlax : (strict && rest != []) = true → t.node (here ++ [part]) = some .dir := by
    intro hstrict
    rw [Bool.and_eq_true, bne_iff_ne] at hstrict
    exact hdir hstrict.1 hstrict.2
  split
  · rename_i target hlink
    exact absurd ⟨target, hlink⟩ hnode
  · rfl
  · rename_i hother
    exact if_neg fun hstrict => hother (hlax hstrict)

/-- The four kinds of steps. -/
lemma walkTo_cases (h : t.walkTo strict next here (part :: rest) = some l) :
    ((part = [] ∨ part = ['.']) ∧ t.walkTo strict next here rest = some l) ∨
    (part = Path.parent ∧ t.walkTo strict next here.dropLast rest = some l) ∨
    (IsProper part ∧ ∃ target, t.node (here ++ [part]) = some (.link target) ∧
      next (start here target) (Path.split target ++ rest) = some l) ∨
    (IsProper part ∧ ¬t.IsLink (here ++ [part]) ∧
      (strict = true → rest ≠ [] → t.node (here ++ [part]) = some .dir) ∧
      t.walkTo strict next (here ++ [part]) rest = some l) := by
  by_cases hskip : part = [] ∨ part = ['.']
  · rw [walkTo_skip hskip] at h
    exact .inl ⟨hskip, h⟩
  · by_cases hparent : part = Path.parent
    · subst hparent
      rw [walkTo_parent] at h
      exact .inr (.inl ⟨rfl, h⟩)
    · have hproper : IsProper part := ⟨fun h => hskip (.inl h), fun h => hskip (.inr h), hparent⟩
      refine .inr (.inr ?_)
      rw [walkTo, if_neg hskip, if_neg hparent] at h
      split at h
      · rename_i target hnode
        exact .inl ⟨hproper, target, hnode, h⟩
      · rename_i hnode
        refine .inr ⟨hproper, ?_, fun _ _ => hnode, h⟩
        rintro ⟨target, hlink⟩
        rw [hnode] at hlink
        cases hlink
      · rename_i hlink hdir
        refine .inr ⟨hproper, fun ⟨target, hnode⟩ => hlink target hnode, ?_, ?_⟩
        · intro hstrict hrest
          rw [if_pos (by rw [hstrict, Bool.true_and, bne_iff_ne]; exact hrest)] at h
          cases h
        · split_ifs at h with hstrict
          exact h

/-! ### Walks -/

/-- A property of locations that the steps keep is kept by a walk. -/
lemma follow_induction {P : Location → Prop} (hroot : P [])
    (hparent : ∀ {here}, P here → P here.dropLast)
    (hdown : ∀ {here part}, P here → IsProper part → ¬t.IsLink (here ++ [part]) →
      P (here ++ [part]))
    (hhere : P here) (h : t.follow strict links here parts = some l) : P l := by
  have hwalk : ∀ next : Location → List (List Char) → Option Location,
      (∀ {here parts}, P here → next here parts = some l → P l) →
      ∀ {here parts}, P here → t.walkTo strict next here parts = some l → P l := by
    intro next hnext here parts
    induction parts generalizing here with
    | nil =>
      intro hhere h
      obtain rfl := Option.some.inj h
      exact hhere
    | cons part rest ih =>
      intro hhere h
      rcases walkTo_cases h with ⟨-, h⟩ | ⟨-, h⟩ | ⟨-, target, -, h⟩ | ⟨hproper, hlink, -, h⟩
      · exact ih hhere h
      · exact ih (hparent hhere) h
      · refine hnext ?_ h
        rw [start]
        split_ifs
        · exact hroot
        · exact hhere
      · exact ih (hdown hhere hproper hlink) h
  induction links generalizing here parts with
  | zero => exact hwalk (fun _ _ => none) (fun _ h => nomatch h) hhere h
  | succ links ih => exact hwalk (t.follow strict links) (fun hhere h => ih hhere h) hhere h

lemma walkTo_mono {strict' : Bool} (hstrict : strict' = true → strict = true)
    (next next' : Location → List (List Char) → Option Location)
    (hnext : ∀ {here parts}, next here parts = some l → next' here parts = some l) :
    t.walkTo strict next here parts = some l → t.walkTo strict' next' here parts = some l := by
  induction parts generalizing here with
  | nil => exact id
  | cons part rest ih =>
    intro h
    rcases walkTo_cases h with ⟨hskip, h⟩ | ⟨rfl, h⟩ | ⟨hproper, target, hnode, h⟩ |
      ⟨hproper, hlink, hdir, h⟩
    · rw [walkTo_skip hskip]
      exact ih h
    · rw [walkTo_parent]
      exact ih h
    · rw [walkTo_link hproper hnode]
      exact hnext h
    · rw [walkTo_down hproper hlink fun h => hdir (hstrict h)]
      exact ih h

/-- More links may be followed, and the lax walk goes where the strict walk goes. -/
lemma follow_mono {strict' : Bool} (hstrict : strict' = true → strict = true)
    (hle : links ≤ links') (h : t.follow strict links here parts = some l) :
    t.follow strict' links' here parts = some l := by
  induction links generalizing links' here parts with
  | zero =>
    cases links' with
    | zero => exact walkTo_mono hstrict (fun _ _ => none) (fun _ _ => none) id h
    | succ links' =>
      exact walkTo_mono hstrict (fun _ _ => none) (t.follow strict' links') (fun h => nomatch h) h
  | succ links ih =>
    cases links' with
    | zero => omega
    | succ links' =>
      exact walkTo_mono hstrict (t.follow strict links) (t.follow strict' links')
        (fun h => ih (Nat.le_of_succ_le_succ hle) h) h

/-- A lax walk along two paths stops between them. -/
lemma follow_append {ys : List (List Char)}
    (h : t.follow false links here (parts ++ ys) = some l) :
    ∃ k, t.follow false links here parts = some k ∧ t.follow false links k ys = some l := by
  have hwalk : ∀ next : Location → List (List Char) → Option Location,
      (∀ {here parts}, next here (parts ++ ys) = some l →
        ∃ k, next here parts = some k ∧ t.walkTo false next k ys = some l) →
      ∀ {here parts}, t.walkTo false next here (parts ++ ys) = some l →
        ∃ k, t.walkTo false next here parts = some k ∧ t.walkTo false next k ys = some l := by
    intro next hnext here parts
    induction parts generalizing here with
    | nil => exact fun h => ⟨here, rfl, h⟩
    | cons part rest ih =>
      intro h
      rw [List.cons_append] at h
      rcases walkTo_cases h with ⟨hskip, h⟩ | ⟨rfl, h⟩ | ⟨hproper, target, hnode, h⟩ |
        ⟨hproper, hlink, -, h⟩
      · rw [walkTo_skip hskip]
        exact ih h
      · rw [walkTo_parent]
        exact ih h
      · rw [walkTo_link hproper hnode]
        rw [← List.append_assoc] at h
        exact hnext h
      · rw [walkTo_down hproper hlink fun hstrict => absurd hstrict Bool.false_ne_true]
        exact ih h
  induction links generalizing here parts with
  | zero => exact hwalk (fun _ _ => none) (fun h => nomatch h) h
  | succ links ih =>
    refine hwalk (t.follow false links) (fun h => ?_) h
    obtain ⟨k, hk, hl⟩ := ih h
    exact ⟨k, hk, follow_mono id (Nat.le_succ links) hl⟩

/-! ### Canonical locations -/

lemma canonical_nil : t.Canonical [] where
  proper _ h := absurd h List.not_mem_nil
  noLink front h := by
    rw [List.prefix_nil.mp h]
    rintro ⟨target, hlink⟩
    rw [t.root] at hlink
    cases hlink

lemma Canonical.of_prefix {front : Location} (h : t.Canonical l) (hfront : front <+: l) :
    t.Canonical front where
  proper name hname := h.proper name (hfront.mem hname)
  noLink front' h' := h.noLink front' (h'.trans hfront)

lemma Canonical.down (h : t.Canonical here) (hpart : IsProper part)
    (hlink : ¬t.IsLink (here ++ [part])) : t.Canonical (here ++ [part]) where
  proper name hname := by
    rcases List.mem_append.mp hname with hbefore | hlast
    · exact h.proper name hbefore
    · rw [List.mem_singleton.mp hlast]
      exact hpart
  noLink front hfront := by
    rcases List.prefix_concat_iff.mp hfront with rfl | hbefore
    · exact hlink
    · exact h.noLink front hbefore

/-- A walk from a canonical location ends at one. -/
lemma canonical_of_follow (hhere : t.Canonical here)
    (h : t.follow strict links here parts = some l) : t.Canonical l :=
  follow_induction canonical_nil (fun h => h.of_prefix (List.dropLast_prefix _)) Canonical.down
    hhere h

lemma follow_down_one (hpart : IsProper part) (hlink : ¬t.IsLink (here ++ [part]))
    (hdir : strict = true → rest ≠ [] → t.node (here ++ [part]) = some .dir) :
    t.follow strict links here (part :: rest) = t.follow strict links (here ++ [part]) rest := by
  cases links <;> exact walkTo_down hpart hlink hdir

/-- What exists below a location makes it a directory. -/
lemma node_of_below {below : List (List Char)} (hbelow : below ≠ []) :
    t.node (l ++ below) ≠ none → t.node l = some .dir := by
  induction below using List.reverseRecOn with
  | nil => exact absurd rfl hbelow
  | append_singleton below name ih =>
    intro hnode
    rw [← List.append_assoc] at hnode
    have hdir := t.closed hnode
    by_cases hempty : below = []
    · rwa [hempty, List.append_nil] at hdir
    · exact ih hempty (by rw [hdir]; exact Option.some_ne_none _)

/-- A canonical path leads straight down; the strict walk needs something below every directory of
the path. -/
lemma follow_canonical (h : t.Canonical (here ++ parts))
    (hexists : strict = true → t.node (here ++ parts) ≠ none) :
    t.follow strict links here parts = some (here ++ parts) := by
  induction parts generalizing here with
  | nil =>
    rw [List.append_nil]
    cases links <;> rfl
  | cons part rest ih =>
    have hstep : here ++ part :: rest = (here ++ [part]) ++ rest := by
      rw [List.append_assoc, List.singleton_append]
    rw [hstep] at h hexists ⊢
    rw [follow_down_one (h.proper part (by simp)) (h.noLink _ (List.prefix_append _ _)),
      ih h hexists]
    exact fun hstrict hrest => node_of_below hrest (hexists hstrict)

/-- A canonical location is real already. -/
lemma Canonical.follow_root (h : t.Canonical l) : t.follow false links [] l = some l :=
  follow_canonical h fun hstrict => absurd hstrict Bool.false_ne_true

/-- What is opened is a file. -/
lemma openFile_eq_some {content : β} {real : Location}
    (h : t.openFile links l = some (real, content)) :
    t.follow true links [] l = some real ∧ t.node real = some (.file content) := by
  obtain ⟨k, hk, hnode⟩ := Option.bind_eq_some_iff.mp h
  split at hnode
  · rename_i content' hfile
    obtain ⟨rfl, rfl⟩ := Prod.mk.inj (Option.some.inj hnode)
    exact ⟨hk, hfile⟩
  · cases hnode

/-- The file that is opened at a canonical location is the one there. -/
lemma openFile_of_canonical (h : t.Canonical l) {content : β} {real : Location}
    (hopen : t.openFile links l = some (real, content)) : real = l := by
  obtain ⟨hwalk, hnode⟩ := openFile_eq_some hopen
  have hlax : t.follow false links [] l = some real :=
    follow_mono (fun h => absurd h Bool.false_ne_true) le_rfl hwalk
  rw [h.follow_root] at hlax
  exact (Option.some.inj hlax).symm

/-- A tree without links is walked like a path without links. -/
lemma follow_of_noLinks (hlinks : ∀ location, ¬t.IsLink location)
    (hparts : ∀ part ∈ parts, part ≠ [] ∧ part ≠ ['.']) :
    t.follow false links here parts = some (Path.walk here parts) := by
  induction parts generalizing here with
  | nil => cases links <;> rfl
  | cons part rest ih =>
    obtain ⟨⟨hempty, hdot⟩, hrest⟩ := List.forall_mem_cons.mp hparts
    by_cases hparent : part = Path.parent
    · subst hparent
      have hstep : t.follow false links here (Path.parent :: rest) =
          t.follow false links here.dropLast rest := by
        cases links <;> exact walkTo_parent
      rw [hstep, ih hrest]
      rfl
    · have hwalk : Path.walk here (part :: rest) = Path.walk (here ++ [part]) rest := by
        rw [Path.walk, List.foldl_cons, Path.step, if_neg hparent, ← Path.walk]
      rw [follow_down_one ⟨hempty, hdot, hparent⟩ (hlinks _)
        fun h => absurd h Bool.false_ne_true, ih hrest, hwalk]

/-! ### The last link -/

section Land

variable {place place' : Location} {tail tail' : List (List Char)}

lemma land_skip (h : part = [] ∨ part = ['.']) :
    t.land links place tail (part :: rest) = t.land links place tail rest := by
  rw [land, if_pos h]

lemma land_parent : t.land links place tail (Path.parent :: rest) =
    if tail = [] then t.land links place.dropLast [] rest
    else t.land links place tail.dropLast rest := by
  rw [land, if_neg (by decide), if_pos rfl]

lemma land_link (h : IsProper part) {target : List Char}
    (hnode : t.node (place ++ tail ++ [part]) = some (.link target)) :
    t.land links place tail (part :: rest) =
      (t.follow false links (start (place ++ tail) target) (Path.split target)).bind fun real =>
        t.land links real [] rest := by
  rw [land, if_neg (not_or.mpr ⟨h.1, h.2.1⟩), if_neg h.2.2, hnode]

lemma land_down (h : IsProper part) (hlink : ¬t.IsLink (place ++ tail ++ [part])) :
    t.land links place tail (part :: rest) = t.land links place (tail ++ [part]) rest := by
  rw [land, if_neg (not_or.mpr ⟨h.1, h.2.1⟩), if_neg h.2.2]
  split
  · rename_i target hnode
    exact absurd ⟨target, hnode⟩ hlink
  · rfl

/-- A lax walk ends below the place where its last link leads. -/
lemma land_of_follow (h : t.follow false links (place ++ tail) parts = some l) :
    ∃ place' tail', t.land links place tail parts = some (place', tail') ∧ l = place' ++ tail' := by
  induction parts generalizing place tail with
  | nil =>
    have hl : t.follow false links (place ++ tail) [] = some (place ++ tail) := by
      cases links <;> rfl
    rw [hl] at h
    exact ⟨place, tail, rfl, (Option.some.inj h).symm⟩
  | cons part rest ih =>
    -- the walk of `links` links takes the same steps, with fewer links after a link
    have hcases : ((part = [] ∨ part = ['.']) ∧
        t.follow false links (place ++ tail) rest = some l) ∨
        (part = Path.parent ∧ t.follow false links (place ++ tail).dropLast rest = some l) ∨
        (IsProper part ∧ ∃ target, t.node (place ++ tail ++ [part]) = some (.link target) ∧
          t.follow false links (start (place ++ tail) target) (Path.split target ++ rest) =
            some l) ∨
        (IsProper part ∧ ¬t.IsLink (place ++ tail ++ [part]) ∧
          t.follow false links (place ++ tail ++ [part]) rest = some l) := by
      cases links with
      | zero =>
        rcases walkTo_cases h with h | h | ⟨-, target, -, h⟩ | ⟨hproper, hlink, -, h⟩
        · exact .inl h
        · exact .inr (.inl h)
        · cases h
        · exact .inr (.inr (.inr ⟨hproper, hlink, h⟩))
      | succ links =>
        rcases walkTo_cases h with h | h | ⟨hproper, target, hnode, h⟩ | ⟨hproper, hlink, -, h⟩
        · exact .inl h
        · exact .inr (.inl h)
        · exact .inr (.inr (.inl ⟨hproper, target, hnode, follow_mono id (Nat.le_succ links) h⟩))
        · exact .inr (.inr (.inr ⟨hproper, hlink, h⟩))
    rcases hcases with ⟨hskip, hrest⟩ | ⟨rfl, hrest⟩ | ⟨hproper, target, hnode, hrest⟩ |
      ⟨hproper, hlink, hrest⟩
    · rw [land_skip hskip]
      exact ih hrest
    · rw [land_parent]
      split_ifs with htail
      · rw [htail, List.append_nil] at hrest
        exact ih (by rwa [List.append_nil])
      · rw [List.dropLast_append_of_ne_nil htail] at hrest
        exact ih hrest
    · rw [land_link hproper hnode]
      obtain ⟨real, hreal, hrest⟩ := follow_append hrest
      rw [hreal, Option.bind_some]
      exact ih (by rwa [List.append_nil])
    · rw [land_down hproper hlink]
      rw [List.append_assoc] at hrest
      exact ih hrest

/-- One step leaves names of the path below the last link, and a proper name at their end. -/
lemma land_cases (h : t.land links place tail (part :: rest) = some (place', tail')) :
    ∃ place₁ tail₁, t.land links place₁ tail₁ rest = some (place', tail') ∧
      (∀ name ∈ tail₁, name ∈ tail ∨ name = part) ∧
      (IsProper part → tail₁ = [] ∨ tail₁ = tail ++ [part]) := by
  by_cases hskip : part = [] ∨ part = ['.']
  · rw [land_skip hskip] at h
    exact ⟨place, tail, h, fun name hname => .inl hname,
      fun hproper => absurd hskip (not_or.mpr ⟨hproper.1, hproper.2.1⟩)⟩
  · by_cases hparent : part = Path.parent
    · subst hparent
      rw [land_parent] at h
      split_ifs at h
      · exact ⟨_, [], h, fun name hname => absurd hname List.not_mem_nil, fun _ => .inl rfl⟩
      · exact ⟨_, tail.dropLast, h, fun name hname => .inl (List.mem_of_mem_dropLast hname),
          fun hproper => absurd rfl hproper.2.2⟩
    · have hproper : IsProper part := ⟨fun h => hskip (.inl h), fun h => hskip (.inr h), hparent⟩
      by_cases hlink : t.IsLink (place ++ tail ++ [part])
      · obtain ⟨target, hnode⟩ := hlink
        rw [land_link hproper hnode] at h
        obtain ⟨real, -, h⟩ := Option.bind_eq_some_iff.mp h
        exact ⟨real, [], h, fun name hname => absurd hname List.not_mem_nil, fun _ => .inl rfl⟩
      · rw [land_down hproper hlink] at h
        refine ⟨place, tail ++ [part], h, fun name hname => ?_, fun _ => .inr rfl⟩
        exact (List.mem_append.mp hname).imp_right List.mem_singleton.mp

/-- The names below the last link are names of the path. -/
lemma mem_of_land (h : t.land links place tail parts = some (place', tail')) :
    ∀ name ∈ tail', name ∈ tail ∨ name ∈ parts := by
  induction parts generalizing place tail with
  | nil =>
    obtain ⟨-, rfl⟩ := Prod.mk.inj (Option.some.inj h)
    exact fun name hname => .inl hname
  | cons part rest ih =>
    intro name hname
    obtain ⟨place₁, tail₁, hrest, hmem, -⟩ := land_cases h
    rcases ih hrest name hname with htail | hname
    · rcases hmem name htail with htail | rfl
      · exact .inl htail
      · exact .inr List.mem_cons_self
    · exact .inr (List.mem_cons_of_mem part hname)

/-- A path that ends with a proper name ends at a link or with this name. -/
lemma getLast?_of_land (hproper : IsProper part)
    (h : t.land links place tail (parts ++ [part]) = some (place', tail')) :
    tail' = [] ∨ tail'.getLast? = some part := by
  induction parts generalizing place tail with
  | nil =>
    obtain ⟨place₁, tail₁, hrest, -, hlast⟩ := land_cases h
    obtain ⟨-, rfl⟩ := Prod.mk.inj (Option.some.inj hrest)
    refine (hlast hproper).imp_right fun htail => ?_
    rw [htail, List.getLast?_concat]
  | cons first rest ih =>
    obtain ⟨place₁, tail₁, hrest, -⟩ := land_cases h
    exact ih hrest

end Land

end FileTree

end EcommerceAgent.Lib
