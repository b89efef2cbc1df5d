import HiddenEquation.CommandLine.FileTree
import Mathlib.Data.List.Basic

/-!
# Files that are written and read back

A run writes its journal into a file that it may have created itself. This file proves that the
writing is not lost: once a file is there, more text at its end is found behind what it held before,
by the same path, and no other file changes. Two things could get in the way. A path is followed
name by name through directories, and creating a file makes new directories of the routes that lead
to it; so a path has to lead to the same place before and after. And a path may lead to a device or
a stream, which keeps nothing.

## Main definitions

* `FileTree.devices` : the routes at which nothing is kept.
* `FileTree.Leads` : where a single name leads from a directory.
* `FileTree.Keeps` : what is written to a path can be read there again.

## Main results

* `FileTree.walk_cons_eq_ok_iff` : names are followed one at a time.
* `FileTree.find_of_create` : to create a file at a path is to create it where the path leads.
* `FileTree.read_append`, `FileTree.read_append_of_ne` : what is read after some text was appended.
* `FileTree.read_append_of_create` : what is read of a file that was created and written.
-/

namespace HiddenEquation.FileTree

variable {t t' files : FileTree} {path other text : String} {route : List String}

/-- The routes at which nothing is kept: the empty device and the streams. -/
def devices : List (List String) := ["dev", "null"] :: inputRoute :: outputRoutes

/-- What is written to a path can be read there again: the path leads to no device. -/
def Keeps (t : FileTree) (path : String) : Prop :=
  ∀ route, t.find path = .ok route → route ∉ devices

/-! ### What is there -/

/-- Something can be read at the routes of the readable things. -/
theorem isSome_file?_iff : (t.file? route).isSome ↔ route ∈ t.readables.map Prod.fst := by
  rw [file?, Option.isSome_map, List.find?_isSome, List.mem_map]
  simp only [beq_iff_eq]

/-- A directory is known by the routes of the readable things. -/
theorem isDirectory_congr (h : t'.readables.map Prod.fst = t.readables.map Prod.fst)
    (route : List String) : t'.isDirectory route = t.isDirectory route := by
  have hany (u : FileTree) :
      (u.readables.any fun entry => route.isPrefixOf entry.1 && entry.1 != route) =
        (u.readables.map Prod.fst).any fun r => route.isPrefixOf r && r != route := by
    rw [List.any_map]
    rfl
  rw [isDirectory, isDirectory, hany, hany, h]

/-! ### Following names -/

/-- Names are followed one after another. -/
theorem walk_append (here names more : List String) :
    t.walk here (names ++ more) = (t.walk here names).bind fun there => t.walk there more := by
  induction names generalizing here with
  | nil => rfl
  | cons name rest ih =>
    rw [List.cons_append, walk, walk]
    split
    · rfl
    · split
      · exact ih here
      · split
        · exact ih _
        · split
          · rfl
          · exact ih _

/-- Where a name leads from a directory: nowhere else if it is empty or a dot, back if it is made of
two dots, and on otherwise, unless it is too long. -/
inductive Leads (here : List String) : String → List String → Prop
  | stay {name : String} (hstay : name = "" ∨ name = ".") : Leads here name here
  | back {name : String} (hback : name = "..") : Leads here name here.dropLast
  | on {name : String} (hstay : ¬(name = "" ∨ name = ".")) (hback : name ≠ "..")
      (hsize : ¬maxNameSize < name.utf8ByteSize) : Leads here name (resolve (here ++ [name]))

/-- A dot leads nowhere else. -/
theorem Leads.eq_of_dot {here next : List String} (h : Leads here "." next) : next = here := by
  cases h with
  | stay => rfl
  | back hback => simp at hback
  | on hstay => exact absurd (.inr rfl) hstay

/-- Names are followed if the first one leads on from a directory and the others from there. -/
theorem walk_cons_eq_ok_iff {here there rest : List String} {name : String} :
    t.walk here (name :: rest) = .ok there ↔ t.isDirectory here = true ∧
      ∃ next, Leads here name next ∧ t.walk next rest = .ok there := by
  rw [walk]
  constructor
  · intro hwalk
    split at hwalk
    · cases hwalk
    · next hdirectory =>
      refine ⟨by simpa using hdirectory, ?_⟩
      split at hwalk
      · next hstay => exact ⟨here, .stay hstay, hwalk⟩
      · next hstay =>
        split at hwalk
        · next hback => exact ⟨here.dropLast, .back hback, hwalk⟩
        · next hback =>
          split at hwalk
          · cases hwalk
          · next hsize => exact ⟨_, .on hstay hback hsize, hwalk⟩
  · rintro ⟨hdirectory, next, hleads, hwalk⟩
    rw [hdirectory]
    cases hleads with
    | stay hstay => simpa [hstay] using hwalk
    | back hback => simpa [hback] using hwalk
    | on hstay hback hsize => simpa [hstay, hback, hsize] using hwalk

/-- Where names lead depends on the routes of the readable things only. -/
theorem walk_congr (h : t'.readables.map Prod.fst = t.readables.map Prod.fst)
    (here names : List String) : t'.walk here names = t.walk here names := by
  have hfile (r : List String) : (t'.file? r).isSome = (t.file? r).isSome := by
    rw [Bool.eq_iff_iff, isSome_file?_iff, isSome_file?_iff, h]
  induction names generalizing here with
  | nil => rfl
  | cons name rest ih => simp only [walk, isDirectory_congr h, hfile, ih]

/-- Names that lead somewhere still lead there when there are more directories. -/
theorem walk_mono (h : ∀ r, t.isDirectory r = true → t'.isDirectory r = true)
    {here there names : List String} (hwalk : t.walk here names = .ok there) :
    t'.walk here names = .ok there := by
  induction names generalizing here with
  | nil => exact hwalk
  | cons name rest ih =>
    obtain ⟨hdirectory, next, hleads, hrest⟩ := walk_cons_eq_ok_iff.mp hwalk
    exact walk_cons_eq_ok_iff.mpr ⟨h here hdirectory, next, hleads, ih hrest⟩

/-! ### Creating a file -/

/-- The names of a path up to the last one that is not empty. If these are all of them, the last one
is not empty. -/
theorem ne_empty_of_stem {names : List String} {name : String}
    (hstem : ¬((names.reverse.dropWhile (· == "")).reverse.length < names.length))
    (hname : (names.reverse.dropWhile (· == "")).reverse.getLast? = some name) :
    (names.reverse.dropWhile (· == "")).reverse = names ∧ name ≠ "" := by
  have hall : names.reverse.dropWhile (· == "") = names.reverse :=
    (List.dropWhile_suffix _).eq_of_length_le (by simpa using hstem)
  rw [hall, List.reverse_reverse] at hname ⊢
  refine ⟨rfl, fun hempty => ?_⟩
  obtain ⟨rest, hnames⟩ := List.getLast?_eq_some_iff.mp hname
  have hhead := List.head?_dropWhile_not (· == "") names.reverse
  rw [hall, hnames, hempty] at hhead
  simp at hhead

/-- To create a file at a path is to create it where the path leads. -/
theorem find_of_create (h : t.create path = .ok files) :
    ∃ route, t.find path = .ok route ∧ t.createAt route = .ok files := by
  rw [create] at h
  rw [find]
  cases hpath : namesOf path with
  | error reason =>
    rw [hpath] at h
    cases h
  | ok parts =>
    obtain ⟨names, start⟩ := parts
    simp only [hpath] at h ⊢
    split at h
    · cases h
    · cases h
    · next parent name hparent hname =>
      split at h
      · cases h
      · next hlast =>
        split at h
        · cases h
        · next hsize =>
          rw [not_or, not_or] at hlast
          obtain ⟨hdot, hback, hshort⟩ := hlast
          obtain ⟨hstem, hempty⟩ := ne_empty_of_stem hshort hname
          rw [hstem] at hparent hname
          obtain ⟨init, rfl⟩ := List.getLast?_eq_some_iff.mp hname
          rw [List.dropLast_concat, walk_append] at hparent
          cases hinit : t.walk start init with
          | error reason =>
            rw [hinit] at hparent
            cases hparent
          | ok there =>
            rw [hinit] at hparent
            obtain ⟨hdirectory, next, hdotted, hnext⟩ := walk_cons_eq_ok_iff.mp hparent
            obtain rfl : next = there := hdotted.eq_of_dot
            obtain rfl : next = parent := Except.ok.inj hnext
            have hleads : Leads next name (resolve (next ++ [name])) :=
              .on (not_or.mpr ⟨hempty, hdot⟩) hback hsize
            refine ⟨resolve (next ++ [name]), ?_, h⟩
            rw [walk_append, hinit]
            exact walk_cons_eq_ok_iff.mpr ⟨hdirectory, _, hleads, rfl⟩

/-- What creating a file at the end of a route does. Something that can be read or written there is
left alone, and otherwise there is an empty file from then on. -/
theorem createAt_cases (h : t.createAt route = .ok files) : t.isDirectory route = false ∧
    (files = t ∧ (route ∈ t.readables.map Prod.fst ∨ route ∈ outputRoutes) ∨
      files = { t with files := t.files ++ [(route, .empty)] } ∧ t.file? route = none) := by
  rw [createAt] at h
  split at h
  · cases h
  · next hdirectory =>
    refine ⟨by simpa using hdirectory, ?_⟩
    split at h
    · next hthere =>
      rw [Bool.or_eq_true, isSome_file?_iff, List.contains_iff_mem] at hthere
      exact .inl ⟨(Except.ok.inj h).symm, hthere⟩
    · next hnew =>
      split at h
      · cases h
      · refine .inr ⟨(Except.ok.inj h).symm, ?_⟩
        rw [Bool.or_eq_true, not_or] at hnew
        simpa using hnew.1

/-- The routes that lead to a new file become directories. -/
theorem isDirectory_concat (t : FileTree) (route r : List String) :
    isDirectory { t with files := t.files ++ [(route, .empty)] } r =
      (t.isDirectory r || (r.isPrefixOf route && route != r)) := by
  simp only [isDirectory, readables, List.any_append, List.any_cons, List.any_nil, Bool.or_false]
  ac_rfl

/-- A new file is empty. -/
theorem file?_concat_self (h : t.file? route = none) :
    file? { t with files := t.files ++ [(route, .empty)] } route = some .empty := by
  rw [file?, readables, List.find?_append, Option.map_eq_none_iff, Option.or_eq_none_iff] at h
  rw [file?, readables, List.append_assoc, List.find?_append, h.1]
  simp

/-- What can be read at the end of a route that is no directory is read by each path that leads
there. -/
theorem read_of_find (hfind : t.find path = .ok route) (hdirectory : t.isDirectory route = false) :
    t.read path = (t.file? route).elim (.error .notFound) .ok := by
  simp only [read, hfind, hdirectory, Bool.false_eq_true, if_false]
  cases t.file? route with
  | none => rfl
  | some bytes => rfl

/-- After a file was created, it is found where its path leads, and it holds what it held before. -/
theorem file_of_create (h : t.create path = .ok files) (hkeeps : files.Keeps path) :
    ∃ route before, files.find path = .ok route ∧ files.isDirectory route = false ∧
      route ∈ files.files.map Prod.fst ∧ files.file? route = some before ∧
      (t.read path = .ok before ∨ t.read path = .error .notFound ∧ before = .empty) := by
  obtain ⟨route, hfind, hcreate⟩ := find_of_create h
  obtain ⟨hdirectory, ⟨rfl, hthere⟩ | ⟨rfl, hnew⟩⟩ := createAt_cases hcreate
  · have hdevice := hkeeps route hfind
    simp only [devices, List.mem_cons, not_or] at hdevice
    have hreadable : route ∈ files.readables.map Prod.fst :=
      hthere.resolve_right hdevice.2.2
    obtain ⟨before, hbefore⟩ := Option.isSome_iff_exists.mp (isSome_file?_iff.mpr hreadable)
    refine ⟨route, before, hfind, hdirectory, ?_, hbefore, .inl ?_⟩
    · simpa [readables, hdevice.1, hdevice.2.1] using hreadable
    · rw [read_of_find hfind hdirectory, hbefore, Option.elim_some]
  · have hmono : ∀ r, t.isDirectory r = true →
        isDirectory { t with files := t.files ++ [(route, .empty)] } r = true := by
      intro r hr
      rw [isDirectory_concat, hr, Bool.true_or]
    refine ⟨route, .empty, ?_, ?_, by simp, file?_concat_self hnew, .inr ⟨?_, rfl⟩⟩
    · rw [find] at hfind ⊢
      cases hpath : namesOf path with
      | error reason =>
        rw [hpath] at hfind
        cases hfind
      | ok parts =>
        rw [hpath] at hfind
        exact walk_mono hmono hfind
    · rw [isDirectory_concat, hdirectory]
      simp
    · rw [read_of_find hfind hdirectory, hnew, Option.elim_none]

/-! ### Appending to a file -/

/-- Appending changes no route. -/
theorem map_fst_readables_append (t : FileTree) (path text : String) :
    (t.append path text).readables.map Prod.fst = t.readables.map Prod.fst := by
  rw [append]
  cases t.find path with
  | error reason => rfl
  | ok route =>
    have hkey (entry : List String × ByteArray) :
        (if entry.1 = route then (route, entry.2 ++ text.toUTF8) else entry).1 = entry.1 := by
      split
      · next hentry => exact hentry.symm
      · rfl
    simp only [readables, List.map_append, List.map_map, Function.comp_def, hkey]

/-- Every path leads to where it led before. -/
theorem find_append (t : FileTree) (path text other : String) :
    (t.append path text).find other = t.find other := by
  rw [find, find]
  cases namesOf other with
  | error reason => rfl
  | ok parts => exact walk_congr (map_fst_readables_append t path text) parts.2 parts.1

theorem isDirectory_append (t : FileTree) (path text : String) (route : List String) :
    (t.append path text).isDirectory route = t.isDirectory route :=
  isDirectory_congr (map_fst_readables_append t path text) route

/-- Files are looked up by their routes, which appending does not change. -/
theorem find?_map_append (entries : List (List String × ByteArray)) (route r : List String)
    (more : ByteArray) :
    (entries.map fun entry =>
        if entry.1 = route then (route, entry.2 ++ more) else entry).find? (·.1 == r) =
      (entries.find? (·.1 == r)).map fun entry =>
        if entry.1 = route then (route, entry.2 ++ more) else entry := by
  rw [List.find?_map]
  congr 2
  funext entry
  by_cases h : entry.1 = route <;> simp [h]

/-- The file at the end of the route has the text at its end. -/
theorem file?_append_self (hfind : t.find path = .ok route) (hkept : route ∈ t.files.map Prod.fst) :
    (t.append path text).file? route = (t.file? route).map (· ++ text.toUTF8) := by
  obtain ⟨entry, hentry, hroute⟩ := List.mem_map.mp hkept
  obtain ⟨first, hfirst⟩ : ∃ first, t.files.find? (·.1 == route) = some first := by
    rw [← Option.isSome_iff_exists, List.find?_isSome]
    exact ⟨entry, hentry, by simpa using hroute⟩
  have hfirstRoute : first.1 = route := by simpa using List.find?_some hfirst
  simp only [append, hfind, file?, readables, List.find?_append, find?_map_append, hfirst,
    Option.map_some, hfirstRoute, if_true, Option.some_or]

/-- What can be read at the end of any other route is what it was. -/
theorem file?_append_of_ne (hfind : t.find path = .ok route) {r : List String} (hne : r ≠ route) :
    (t.append path text).file? r = t.file? r := by
  simp only [append, hfind, file?, readables, List.find?_append, find?_map_append]
  cases hfirst : t.files.find? (·.1 == r) with
  | none => rfl
  | some first =>
    have hfirstRoute : first.1 = r := by simpa using List.find?_some hfirst
    rw [Option.map_some, if_neg (hfirstRoute ▸ hne)]

/-- More text at the end of a file is read behind what was read before. -/
theorem read_append (hfind : t.find path = .ok route) (hdirectory : t.isDirectory route = false)
    (hkept : route ∈ t.files.map Prod.fst) {bytes : ByteArray}
    (hbytes : t.file? route = some bytes) :
    (t.append path text).read path = .ok (bytes ++ text.toUTF8) := by
  rw [read_of_find ((find_append ..).trans hfind) ((isDirectory_append ..).trans hdirectory),
    file?_append_self hfind hkept, hbytes]
  rfl

/-- A path that leads elsewhere reads what it read before. -/
theorem read_append_of_ne (hother : t.find other ≠ t.find path) :
    (t.append path text).read other = t.read other := by
  cases hfind : t.find path with
  | error reason => rw [append, hfind]
  | ok route =>
    rw [read, read, find_append]
    cases hr : t.find other with
    | error reason => rfl
    | ok r =>
      have hne : r ≠ route := by
        rintro rfl
        exact hother (hr.trans hfind.symm)
      simp only [isDirectory_append, file?_append_of_ne hfind hne]

/-- **What is appended to a file is there.** If a file was created at a path that leads to no
device, then after some text was appended, the path reads what it read before the file was created,
or nothing if there was no file, and then the text. -/
theorem read_append_of_create (h : t.create path = .ok files) (hkeeps : files.Keeps path)
    (text : String) : ∃ before : ByteArray,
      (t.read path = .ok before ∨ t.read path = .error .notFound ∧ before = .empty) ∧
        (files.append path text).read path = .ok (before ++ text.toUTF8) := by
  obtain ⟨route, before, hfind, hdirectory, hkept, hfile, hbefore⟩ := file_of_create h hkeeps
  exact ⟨before, hbefore, read_append hfind hdirectory hkept hfile⟩

end HiddenEquation.FileTree
