import BooleanSearch.Files.Walk
import Mathlib.Data.List.Nodup

/-!
# What a walk yields

A walk decides folder by folder and entry by entry.  Told by the names on the way to a file, it yields the
files of which all names are visible, no folder is ignored or may not be listed, the folders are not too
many, and the last name is that of a wanted file.  As the entries of every folder are visited in the order
of their names, the files come in the lexicographic order of the names on their ways, each of them once.

The walk comes to an end exactly if the system answers whatever it asks: no folder that it comes to fails to
be listed for another reason than a missing permission, and no visible entry of a listed folder keeps what
it is.
-/

namespace BooleanSearch.Files

/-! ## Files of a tree -/

namespace Tree

/-- A tree shows a file at the end of some names: the file stands there, and all folders on the way,
that at the top included, can be listed. -/
inductive Shows : Tree → List String → Prop
  | here (content : Bytes) (modified : Float) (reading : Option Refusal) :
      Shows (.file content modified reading) []
  | within {entries : List (String × Tree)} {refused : Refused} {name : String} {inside : Tree}
      {names : List String} (listed : refused.listing = none) (member : (name, inside) ∈ entries)
      (rest : Shows inside names) : Shows (.folder entries refused) (name :: names)

/-- No folder of a tree has two entries of one name. -/
inductive NamesApart : Tree → Prop
  | file (content : Bytes) (modified : Float) (reading : Option Refusal) :
      NamesApart (.file content modified reading)
  | folder {entries : List (String × Tree)} {refused : Refused}
      (apart : (entries.map Prod.fst).Nodup) (inside : ∀ entry ∈ entries, NamesApart entry.2) :
      NamesApart (.folder entries refused)

theorem shows_folder_iff {entries : List (String × Tree)} {refused : Refused} {names : List String} :
    Shows (.folder entries refused) names ↔
      refused.listing = none ∧
        ∃ entry ∈ entries, ∃ rest, names = entry.1 :: rest ∧ Shows entry.2 rest := by
  constructor
  · intro shown
    cases shown with
    | within listed member rest => exact ⟨listed, _, member, _, rfl, rest⟩
  · rintro ⟨listed, entry, member, rest, rfl, shown⟩
    exact .within listed member shown

theorem shows_file_iff {content : Bytes} {modified : Float} {reading : Option Refusal}
    {names : List String} : Shows (.file content modified reading) names ↔ names = [] := by
  constructor
  · intro shown
    cases shown
    rfl
  · rintro rfl
    exact .here content modified reading

end Tree

/-- A path followed by some more names. -/
def Path.below (path : Path) (names : List String) : Path :=
  { path with names := path.names ++ names }

theorem Path.below_nil (path : Path) : path.below [] = path := by
  simp [Path.below]

theorem Path.below_child (path : Path) (name : String) (names : List String) :
    (path.child name).below names = path.below (name :: names) := by
  simp [Path.below, Path.child]

/-! ## What is gathered -/

section

variable {α : Type} {finds : List (String × Except Failure (List α))} {items : List α}

theorem perm_inNameOrder {β : Type} (finds : List (String × β)) : (inNameOrder finds).Perm finds :=
  List.mergeSort_perm finds _

/-- What belongs to different names comes in the order of the names. -/
theorem pairwise_inNameOrder {β : Type} {finds : List (String × β)}
    (apart : (finds.map Prod.fst).Nodup) :
    (inNameOrder finds).Pairwise fun left right => left.1 < right.1 := by
  have transitive : ∀ first second third : String × β, decide (first.1 ≤ second.1) = true →
      decide (second.1 ≤ third.1) = true → decide (first.1 ≤ third.1) = true :=
    fun _ _ _ before after => decide_eq_true
      (String.le_trans (of_decide_eq_true before) (of_decide_eq_true after))
  have total : ∀ first second : String × β,
      (decide (first.1 ≤ second.1) || decide (second.1 ≤ first.1)) = true := fun first second => by
    simpa using String.le_total first.1 second.1
  have ascending := List.pairwise_mergeSort transitive total finds
  have different : (inNameOrder finds).Pairwise fun left right => left.1 ≠ right.1 :=
    List.pairwise_map.mp (((perm_inNameOrder finds).map Prod.fst).nodup_iff.mpr apart)
  refine (ascending.and different).imp fun {left right} both => ?_
  exact Std.lt_of_le_of_ne (of_decide_eq_true both.1) both.2

/-- What comes in the order of the names stays as it is. -/
theorem inNameOrder_of_pairwise {β : Type} {finds : List (String × β)}
    (ordered : finds.Pairwise fun left right => left.1 ≤ right.1) : inNameOrder finds = finds :=
  List.mergeSort_of_pairwise (by simpa using ordered)

theorem gather_cons_eq_ok_iff {name : String} {found : Except Failure (List α)} :
    gather ((name, found) :: finds) = .ok items ↔
      ∃ first others, found = .ok first ∧ gather finds = .ok others ∧ items = first ++ others := by
  cases found with
  | error failure => simp [gather, bind, Except.bind]
  | ok first =>
      cases later : gather finds with
      | error failure => simp [gather, later, bind, Except.bind]
      | ok others => simp [gather, later, bind, Except.bind, pure, Except.pure, eq_comm]

/-- All is gathered exactly if nothing fails. -/
theorem exists_gather_iff :
    (∃ items, gather finds = .ok items) ↔ ∀ find ∈ finds, ∃ inside, find.2 = .ok inside := by
  induction finds with
  | nil => exact iff_of_true ⟨[], rfl⟩ (List.forall_mem_nil _)
  | cons find rest inductionHypothesis =>
      rw [List.forall_mem_cons, ← inductionHypothesis]
      constructor
      · rintro ⟨items, gathered⟩
        obtain ⟨first, others, here, later, -⟩ := gather_cons_eq_ok_iff.mp gathered
        exact ⟨⟨first, here⟩, others, later⟩
      · rintro ⟨⟨first, here⟩, others, later⟩
        exact ⟨_, gather_cons_eq_ok_iff.mpr ⟨first, others, here, later, rfl⟩⟩

/-- What is gathered is what is found at the names. -/
theorem mem_gather_iff (gathered : gather finds = .ok items) {item : α} :
    item ∈ items ↔ ∃ find ∈ finds, ∃ inside, find.2 = .ok inside ∧ item ∈ inside := by
  induction finds generalizing items with
  | nil =>
      cases gathered
      simp
  | cons find rest inductionHypothesis =>
      obtain ⟨first, others, here, later, rfl⟩ := gather_cons_eq_ok_iff.mp gathered
      rw [List.mem_append, inductionHypothesis later, List.exists_mem_cons_iff, here]
      simp

/-- What is gathered stands in an order if what is found at each name does, and what is found at a name
stands before what is found at those behind it. -/
theorem pairwise_gather {before : α → α → Prop} (gathered : gather finds = .ok items)
    (within : ∀ find ∈ finds, ∀ inside, find.2 = .ok inside → inside.Pairwise before)
    (across : finds.Pairwise fun left right => ∀ first, left.2 = .ok first →
      ∀ second, right.2 = .ok second → ∀ item ∈ first, ∀ other ∈ second, before item other) :
    items.Pairwise before := by
  induction finds generalizing items with
  | nil =>
      cases gathered
      exact List.Pairwise.nil
  | cons find rest inductionHypothesis =>
      obtain ⟨first, others, here, later, rfl⟩ := gather_cons_eq_ok_iff.mp gathered
      rw [List.forall_mem_cons] at within
      rw [List.pairwise_cons] at across
      refine List.pairwise_append.mpr
        ⟨within.1 first here, inductionHypothesis later within.2 across.2, ?_⟩
      intro item member other otherMember
      obtain ⟨next, nextMember, second, there, inside⟩ := (mem_gather_iff later).mp otherMember
      exact across.1 next nextMember first here second there item member other inside

end

/-! ## Folder by folder -/

section

variable {wanted : Wanted} {path found : Path} {depth : Nat} {entries : List (String × Tree)}
  {refused : Refused} {paths : List Path}

theorem walkTree_file (content : Bytes) (modified : Float) (reading : Option Refusal) :
    walkTree wanted path depth (.file content modified reading) = .ok [] :=
  rfl

theorem walkEntries_eq_map (wanted : Wanted) (path : Path) (depth : Nat) (refused : Refused)
    (entries : List (String × Tree)) :
    walkEntries wanted path depth refused entries =
      entries.map fun entry => (entry.1, walkEntry wanted path depth refused entry) := by
  induction entries with
  | nil => rfl
  | cons entry rest inductionHypothesis =>
      rw [List.map_cons, ← inductionHypothesis]
      rfl

/-- A walk of a folder fails if the folder fails to be listed, passes over a folder that is too deep or
may not be listed, and gathers what it finds at the entries of any other. -/
theorem walkTree_folder_eq_ok_iff :
    walkTree wanted path depth (.folder entries refused) = .ok paths ↔
      (wanted.admitsDepth depth = false ∨ refused.listing = some .denied) ∧ paths = [] ∨
        wanted.admitsDepth depth = true ∧ refused.listing = none ∧
          gather (inNameOrder (walkEntries wanted path depth refused entries)) = .ok paths := by
  rw [walkTree]
  cases wanted.admitsDepth depth with
  | false => simp [eq_comm]
  | true =>
      rcases refused.listing with _ | _ | _
      · simp
      · simp [eq_comm]
      · simp

/-- What is found at the entries of a folder that is listed. -/
theorem mem_walkTree_folder_iff
    (gathered : gather (inNameOrder (walkEntries wanted path depth refused entries)) = .ok paths) :
    found ∈ paths ↔ ∃ entry ∈ entries, ∃ inside,
      walkEntry wanted path depth refused entry = .ok inside ∧ found ∈ inside := by
  rw [mem_gather_iff gathered]
  simp only [(perm_inNameOrder _).mem_iff, walkEntries_eq_map, List.mem_map]
  constructor
  · rintro ⟨-, ⟨entry, member, rfl⟩, finds⟩
    exact ⟨entry, member, finds⟩
  · rintro ⟨entry, member, finds⟩
    exact ⟨_, ⟨entry, member, rfl⟩, finds⟩

/-- At an entry, nothing is found if its name is hidden or if it is a folder that is ignored; else the
system has to tell what it is, and a file is found or a folder is walked. -/
theorem walkEntry_eq_ok_iff {name : String} {inside : Tree} :
    walkEntry wanted path depth refused (name, inside) = .ok paths ↔
      wanted.admitsName name = false ∧ paths = [] ∨
        wanted.admitsName name = true ∧ faultAt? path refused name = none ∧
          (inside.isFolder = false ∧
              paths = (if wanted.admitsFile name then [path.child name] else []) ∨
            inside.isFolder = true ∧ wanted.admitsFolder name = false ∧ paths = [] ∨
              inside.isFolder = true ∧ wanted.admitsFolder name = true ∧
                walkTree wanted (path.child name) (depth + 1) inside = .ok paths) := by
  rw [walkEntry]
  cases wanted.admitsName name with
  | false => simp
  | true =>
      cases faultAt? path refused name with
      | some fault => simp
      | none =>
          cases inside.isFolder with
          | false => simpa using eq_comm
          | true =>
              cases wanted.admitsFolder name with
              | false => simp
              | true => simp

/-- What is found at an entry: the file itself, or what a walk of the folder yields. -/
theorem mem_walkEntry_iff {name : String} {inside : Tree}
    (walked : walkEntry wanted path depth refused (name, inside) = .ok paths) :
    found ∈ paths ↔ wanted.admitsName name = true ∧
      (inside.isFolder = false ∧ wanted.admitsFile name = true ∧ found = path.child name ∨
        inside.isFolder = true ∧ wanted.admitsFolder name = true ∧ ∃ below,
          walkTree wanted (path.child name) (depth + 1) inside = .ok below ∧ found ∈ below) := by
  rcases walkEntry_eq_ok_iff.mp walked with ⟨hidden, rfl⟩ | ⟨visible, -, told⟩
  · simp [hidden]
  · rcases told with ⟨file, rfl⟩ | ⟨folder, ignored, rfl⟩ | ⟨folder, entered, innerWalked⟩
    · simp [visible, file, List.mem_ite_nil_right]
    · simp [folder, ignored]
    · simp [visible, folder, entered, innerWalked]

/-- An entry comes to something if it is not asked about, or if it is told and, where it is a folder to
be entered, the walk of the folder comes to something. -/
theorem exists_walkEntry_iff {entry : String × Tree} :
    (∃ below, walkEntry wanted path depth refused entry = .ok below) ↔
      (wanted.admitsName entry.1 = true → faultAt? path refused entry.1 = none ∧
        (wanted.admitsFolder entry.1 = true →
          ∃ below, walkTree wanted (path.child entry.1) (depth + 1) entry.2 = .ok below)) := by
  obtain ⟨name, inside⟩ := entry
  simp only [walkEntry_eq_ok_iff]
  cases wanted.admitsName name with
  | false => simp
  | true =>
      cases inside with
      | file content modified reading => simp [Tree.isFolder, walkTree_file]
      | folder entries kept =>
          cases wanted.admitsFolder name with
          | false => simp [Tree.isFolder]
          | true => simp [Tree.isFolder]

/-- A folder comes to something if it is too deep, or if it does not fail to be listed and, where it is
listed, all its entries come to something. -/
theorem exists_walkTree_folder_iff :
    (∃ paths, walkTree wanted path depth (.folder entries refused) = .ok paths) ↔
      (wanted.admitsDepth depth = true →
        (refused.listing = none ∨ refused.listing = some .denied) ∧
          (refused.listing = none → ∀ entry ∈ entries,
            ∃ below, walkEntry wanted path depth refused entry = .ok below)) := by
  have gathered : (∃ paths,
      gather (inNameOrder (walkEntries wanted path depth refused entries)) = .ok paths) ↔
        ∀ entry ∈ entries, ∃ below, walkEntry wanted path depth refused entry = .ok below := by
    simp only [exists_gather_iff, (perm_inNameOrder _).mem_iff, walkEntries_eq_map,
      List.forall_mem_map]
  simp only [walkTree_folder_eq_ok_iff]
  cases wanted.admitsDepth depth with
  | false => simp
  | true =>
      rcases refused.listing with _ | _ | _
      · simp [gathered]
      · simp
      · simp

/-! ## Names on the way -/

/-- A file with some folders and a last name on its way is wanted, below a folder of some depth. -/
structure Wanted.AdmitsWay (wanted : Wanted) (depth : Nat) (folders : List String) (name : String) :
    Prop where
  visible : ∀ part ∈ folders ++ [name], wanted.admitsName part = true
  entered : ∀ folder ∈ folders, wanted.admitsFolder folder = true
  shallow : wanted.admitsDepth (depth + folders.length) = true
  file : wanted.admitsFile name = true

theorem Wanted.admitsDepth_iff :
    wanted.admitsDepth depth = true ↔ ∀ most ∈ wanted.maxDepth, (depth : Int) ≤ most := by
  unfold admitsDepth
  cases wanted.maxDepth with
  | none => simp
  | some limit => simp

/-- Folders above one that is not too deep are not too deep. -/
theorem Wanted.admitsDepth_of_le {lower : Nat} (admitted : wanted.admitsDepth lower = true)
    (above : depth ≤ lower) : wanted.admitsDepth depth = true := by
  rw [admitsDepth_iff] at admitted ⊢
  intro most member
  have within := admitted most member
  omega

theorem Wanted.admitsWay_nil_iff {name : String} :
    wanted.AdmitsWay depth [] name ↔
      wanted.admitsDepth depth = true ∧ (wanted.admitsName name && wanted.admitsFile name) = true := by
  rw [Bool.and_eq_true]
  constructor
  · rintro ⟨visible, -, shallow, file⟩
    exact ⟨shallow, visible name (List.mem_singleton_self name), file⟩
  · rintro ⟨shallow, visible, file⟩
    refine ⟨fun part member => ?_, nofun, shallow, file⟩
    rwa [List.mem_singleton.mp member]

theorem Wanted.admitsWay_cons_iff {folder name : String} {folders : List String} :
    wanted.AdmitsWay depth (folder :: folders) name ↔
      wanted.admitsDepth depth = true ∧
        (wanted.admitsName folder && wanted.admitsFolder folder) = true ∧
          wanted.AdmitsWay (depth + 1) folders name := by
  have deeper : depth + (folder :: folders).length = depth + 1 + folders.length := by
    rw [List.length_cons]
    omega
  rw [Bool.and_eq_true]
  constructor
  · rintro ⟨visible, entered, shallow, file⟩
    rw [List.cons_append, List.forall_mem_cons] at visible
    rw [List.forall_mem_cons] at entered
    exact ⟨admitsDepth_of_le shallow (Nat.le_add_right _ _), ⟨visible.1, entered.1⟩, visible.2,
      entered.2, deeper ▸ shallow, file⟩
  · rintro ⟨-, ⟨visible, entered⟩, rest⟩
    exact ⟨List.forall_mem_cons.mpr ⟨visible, rest.visible⟩,
      List.forall_mem_cons.mpr ⟨entered, rest.entered⟩, deeper ▸ rest.shallow, rest.file⟩

/-- A walk yields the files that are shown below a folder and of which the names on the way are
admitted. -/
theorem mem_walkTree_iff {tree : Tree} (apart : tree.NamesApart)
    (walked : walkTree wanted path depth tree = .ok paths) :
    found ∈ paths ↔ ∃ folders name, found = path.below (folders ++ [name]) ∧
      tree.Shows (folders ++ [name]) ∧ wanted.AdmitsWay depth folders name := by
  induction apart generalizing path depth paths with
  | file content modified reading =>
      rw [walkTree_file] at walked
      cases walked
      simp [Tree.shows_file_iff]
  | @folder entries refused apart inside inductionHypothesis =>
      rcases walkTree_folder_eq_ok_iff.mp walked with ⟨passed, rfl⟩ | ⟨shallow, listed, gathered⟩
      · refine iff_of_false List.not_mem_nil ?_
        rintro ⟨folders, name, -, shown, way⟩
        rcases passed with deep | unlisted
        · have shallow := Wanted.admitsDepth_of_le way.shallow (Nat.le_add_right _ _)
          rw [deep] at shallow
          cases shallow
        · rw [(Tree.shows_folder_iff.mp shown).1] at unlisted
          cases unlisted
      rw [mem_walkTree_folder_iff gathered]
      constructor
      -- What is found at an entry is the entry itself, or is found on ways below it.
      · rintro ⟨⟨name, inner⟩, member, below, entryWalked, finds⟩
        obtain ⟨visible, ⟨shape, file, rfl⟩ | ⟨-, entered, deeper, innerWalked, finds⟩⟩ :=
          (mem_walkEntry_iff entryWalked).mp finds
        · cases inner with
          | folder entries refused => cases shape
          | file content modified reading =>
              exact ⟨[], name, rfl, .within listed member (.here content modified reading),
                Wanted.admitsWay_nil_iff.mpr ⟨shallow, Bool.and_eq_true_iff.mpr ⟨visible, file⟩⟩⟩
        · obtain ⟨folders, last, rfl, shown, way⟩ :=
            (inductionHypothesis _ member innerWalked).mp finds
          exact ⟨name :: folders, last, path.below_child _ _, .within listed member shown,
            Wanted.admitsWay_cons_iff.mpr
              ⟨shallow, Bool.and_eq_true_iff.mpr ⟨visible, entered⟩, way⟩⟩
      · rintro ⟨folders, last, rfl, shown, way⟩
        obtain ⟨-, ⟨name, inner⟩, member, rest, names, shown⟩ := Tree.shows_folder_iff.mp shown
        obtain ⟨below, entryWalked⟩ := exists_gather_iff.mp ⟨_, gathered⟩
          (name, walkEntry wanted path depth refused (name, inner)) <|
            (perm_inNameOrder _).mem_iff.mpr <| by
              rw [walkEntries_eq_map]
              exact List.mem_map_of_mem member
        refine ⟨_, member, below, entryWalked, (mem_walkEntry_iff entryWalked).mpr ?_⟩
        cases folders with
        | nil =>
            obtain ⟨rfl, rfl⟩ := List.cons.inj names
            obtain ⟨-, admitted⟩ := Wanted.admitsWay_nil_iff.mp way
            obtain ⟨visible, file⟩ := Bool.and_eq_true_iff.mp admitted
            cases shown with
            | here content modified reading => exact ⟨visible, Or.inl ⟨rfl, file, rfl⟩⟩
        | cons folder folders =>
            obtain ⟨rfl, rfl⟩ := List.cons.inj names
            obtain ⟨-, admitted, way⟩ := Wanted.admitsWay_cons_iff.mp way
            obtain ⟨visible, entered⟩ := Bool.and_eq_true_iff.mp admitted
            cases inner with
            | file content modified reading => exact absurd (Tree.shows_file_iff.mp shown) (by simp)
            | folder entries refused =>
                obtain ⟨deeper, innerWalked⟩ :=
                  (exists_walkEntry_iff.mp ⟨below, entryWalked⟩ visible).2 entered
                exact ⟨visible, Or.inr ⟨rfl, entered, deeper, innerWalked,
                  (inductionHypothesis _ member innerWalked).mpr
                    ⟨folders, last, (path.below_child _ _).symm, shown, way⟩⟩⟩

/-! ## The order of the files -/

/-- The name of an entry is on the way to all that is found at it. -/
theorem names_of_mem_walkEntry {entry : String × Tree} (apart : entry.2.NamesApart)
    (walked : walkEntry wanted path depth refused entry = .ok paths) (finds : found ∈ paths) :
    ∃ rest, found.names = path.names ++ entry.1 :: rest := by
  obtain ⟨-, ⟨-, -, rfl⟩ | ⟨-, -, below, innerWalked, finds⟩⟩ := (mem_walkEntry_iff walked).mp finds
  · exact ⟨[], rfl⟩
  · obtain ⟨folders, last, rfl, -, -⟩ := (mem_walkTree_iff apart innerWalked).mp finds
    exact ⟨folders ++ [last], congrArg Path.names (path.below_child entry.1 _)⟩

/-- A walk yields its files in the lexicographic order of the names on their ways. -/
theorem pairwise_walkTree {tree : Tree} (apart : tree.NamesApart)
    (walked : walkTree wanted path depth tree = .ok paths) :
    paths.Pairwise fun first second => first.names < second.names := by
  induction apart generalizing path depth paths with
  | file content modified reading =>
      rw [walkTree_file] at walked
      cases walked
      exact List.Pairwise.nil
  | @folder entries refused apart inside inductionHypothesis =>
      rcases walkTree_folder_eq_ok_iff.mp walked with ⟨-, rfl⟩ | ⟨-, -, gathered⟩
      · exact List.Pairwise.nil
      have found_at : ∀ find ∈ inNameOrder (walkEntries wanted path depth refused entries),
          ∃ entry ∈ entries, find = (entry.1, walkEntry wanted path depth refused entry) := by
        intro find member
        rw [(perm_inNameOrder _).mem_iff, walkEntries_eq_map] at member
        obtain ⟨entry, entryMember, rfl⟩ := List.mem_map.mp member
        exact ⟨entry, entryMember, rfl⟩
      refine pairwise_gather gathered ?_ ?_
      · intro find member below entryWalked
        obtain ⟨⟨name, inner⟩, entryMember, rfl⟩ := found_at find member
        rcases walkEntry_eq_ok_iff.mp entryWalked with
          ⟨-, rfl⟩ | ⟨-, -, ⟨-, rfl⟩ | ⟨-, -, rfl⟩ | ⟨-, -, innerWalked⟩⟩
        · exact List.Pairwise.nil
        · split
          · exact List.pairwise_singleton _ _
          · exact List.Pairwise.nil
        · exact List.Pairwise.nil
        · exact inductionHypothesis _ entryMember innerWalked
      -- What is found at two entries differs first in the names of the entries.
      · have names : ((walkEntries wanted path depth refused entries).map Prod.fst).Nodup := by
          rw [walkEntries_eq_map, List.map_map]
          exact apart
        refine (pairwise_inNameOrder names).imp_of_mem ?_
        intro find other member otherMember less first walkedFirst second walkedSecond item itemMember
          next nextMember
        obtain ⟨entry, entryMember, rfl⟩ := found_at find member
        obtain ⟨otherEntry, otherEntryMember, rfl⟩ := found_at other otherMember
        obtain ⟨rest, names⟩ :=
          names_of_mem_walkEntry (inside entry entryMember) walkedFirst itemMember
        obtain ⟨otherRest, otherNames⟩ :=
          names_of_mem_walkEntry (inside otherEntry otherEntryMember) walkedSecond nextMember
        rw [names, otherNames]
        exact List.append_left_lt (List.cons_lt_cons_iff.mpr (Or.inl less))

/-! ## What a walk asks the system -/

/-- A walk comes to a tree at the end of some names: it lists the folders on the way, and neither their
names nor their number keep it from going on. -/
inductive Reaches (wanted : Wanted) : Nat → Tree → List String → Tree → Prop
  | here {depth : Nat} {tree : Tree} (shallow : wanted.admitsDepth depth = true) :
      Reaches wanted depth tree [] tree
  | within {depth : Nat} {entries : List (String × Tree)} {refused : Refused} {name : String}
      {inside reached : Tree} {names : List String} (shallow : wanted.admitsDepth depth = true)
      (listed : refused.listing = none) (member : (name, inside) ∈ entries)
      (visible : wanted.admitsName name = true) (entered : wanted.admitsFolder name = true)
      (rest : Reaches wanted (depth + 1) inside names reached) :
      Reaches wanted depth (.folder entries refused) (name :: names) reached

/-- The system answers what a walk asks at a folder: the folder is listed or may not be listed, and if it
is listed, the system tells what every visible entry is. -/
structure AnswersAt (wanted : Wanted) (path : Path) (entries : List (String × Tree))
    (refused : Refused) : Prop where
  listing : refused.listing = none ∨ refused.listing = some .denied
  entries : refused.listing = none → ∀ entry ∈ entries, wanted.admitsName entry.1 = true →
    faultAt? path refused entry.1 = none

/-- The system answers whatever a walk of a tree at a path asks. -/
def Answered (wanted : Wanted) (path : Path) (depth : Nat) (tree : Tree) : Prop :=
  ∀ names entries refused, Reaches wanted depth tree names (.folder entries refused) →
    AnswersAt wanted (path.below names) entries refused

theorem answered_file (content : Bytes) (modified : Float) (reading : Option Refusal) :
    Answered wanted path depth (.file content modified reading) := by
  rintro names entries refused reached
  cases reached

theorem answered_folder_iff :
    Answered wanted path depth (.folder entries refused) ↔
      (wanted.admitsDepth depth = true → AnswersAt wanted path entries refused ∧
        (refused.listing = none → ∀ entry ∈ entries, wanted.admitsName entry.1 = true →
          wanted.admitsFolder entry.1 = true →
            Answered wanted (path.child entry.1) (depth + 1) entry.2)) := by
  constructor
  · intro answered shallow
    refine ⟨?_, fun listed entry member visible entered names inner kept reached => ?_⟩
    · have here := answered [] entries refused (.here shallow)
      rwa [Path.below_nil] at here
    · have below := answered _ _ _ (.within shallow listed member visible entered reached)
      rwa [← Path.below_child] at below
  · intro answers names inner kept reached
    cases reached with
    | here shallow =>
        rw [Path.below_nil]
        exact (answers shallow).1
    | within shallow listed member visible entered rest =>
        rw [← Path.below_child]
        exact (answers shallow).2 listed _ member visible entered _ _ _ rest

/-- A folder that a walk lists but may not enter keeps what its visible entries are. -/
theorem not_answered_of_unentered {tree : Tree} {names : List String} {refusal : Refusal}
    {entry : String × Tree} (reached : Reaches wanted depth tree names (.folder entries refused))
    (listed : refused.listing = none) (unentered : refused.entering = some refusal)
    (member : entry ∈ entries) (visible : wanted.admitsName entry.1 = true) :
    ¬Answered wanted path depth tree := by
  intro answered
  have told := (answered names entries refused reached).entries listed entry member visible
  unfold faultAt? at told
  rw [unentered] at told
  split at told <;> cases told

/-- A walk comes to an end exactly if the system answers whatever it asks. -/
theorem exists_walkTree_iff {tree : Tree} (apart : tree.NamesApart) :
    (∃ paths, walkTree wanted path depth tree = .ok paths) ↔ Answered wanted path depth tree := by
  induction apart generalizing path depth with
  | file content modified reading =>
      exact iff_of_true ⟨[], walkTree_file content modified reading⟩ (answered_file content modified reading)
  | @folder entries refused apart inside inductionHypothesis =>
      rw [answered_folder_iff, exists_walkTree_folder_iff]
      refine imp_congr_right fun _ => ?_
      constructor
      · rintro ⟨listing, walked⟩
        refine ⟨⟨listing, fun listed entry member visible => ?_⟩,
          fun listed entry member visible entered => ?_⟩
        · exact (exists_walkEntry_iff.mp (walked listed entry member) visible).1
        · exact (inductionHypothesis entry member).mp
            ((exists_walkEntry_iff.mp (walked listed entry member) visible).2 entered)
      · rintro ⟨here, below⟩
        refine ⟨here.listing, fun listed entry member => exists_walkEntry_iff.mpr fun visible => ?_⟩
        exact ⟨here.entries listed entry member visible, fun entered =>
          (inductionHypothesis entry member).mpr (below listed entry member visible entered)⟩

end

/-! ## Which files are wanted -/

theorem isHidden_eq_false_iff {name : String} :
    isHidden name = false ↔ name.toList.head? ≠ some '.' := by
  unfold isHidden
  rw [← Bool.not_eq_true, String.startsWith_string_iff, not_iff_not]
  cases name.toList with
  | nil => simp
  | cons first rest => simp [eq_comm]

/-- What a walk is asked for, told by the folders and the last name on the way to a file: hidden and
binary files may be left out, some extensions may be wanted only, and there may be a bound on the
folders. -/
structure WantedWay (hidden skipBinary : Bool) (extensions : List String) (maxDepth : Option Int)
    (folders : List String) (name : String) : Prop where
  visible : hidden = true ∨ ∀ part ∈ folders ++ [name], part.toList.head? ≠ some '.'
  entered : ∀ folder ∈ folders, folder ∉ ignoredFolders
  shallow : ∀ most ∈ maxDepth, (folders.length : Int) ≤ most
  text : skipBinary = false ∨ lowerSuffix name ∉ binarySuffixes
  extension : (∀ extension ∈ extensions, extension = "") ∨
    ∃ extension ∈ extensions, extension ≠ "" ∧ lowerSuffix name = normalizeExtension extension

/-- The normal forms of extensions are those of the extensions that are not empty. -/
theorem mem_normalizeExtensions_iff {extensions normal : List String}
    (normalized : normalizeExtensions extensions = some normal) (suffix : String) :
    suffix ∈ normal ↔
      ∃ extension ∈ extensions, extension ≠ "" ∧ suffix = normalizeExtension extension := by
  unfold normalizeExtensions at normalized
  split at normalized
  · cases normalized
  · cases normalized
    simp only [List.mem_eraseDups, List.mem_map, List.mem_filter, Bool.not_eq_true',
      String.isEmpty_eq_false_iff, and_assoc, eq_comm (a := suffix)]

/-- Extensions leave every suffix if none of them has a normal form, and else their normal forms. -/
theorem admitsSuffix_iff {extensions : List String} {suffix : String} :
    (match normalizeExtensions extensions with
      | none => true
      | some normal => normal.isEmpty || normal.contains suffix) = true ↔
      (∀ extension ∈ extensions, extension = "") ∨
        ∃ extension ∈ extensions, extension ≠ "" ∧ suffix = normalizeExtension extension := by
  cases normalized : normalizeExtensions extensions with
  | none =>
      have none : extensions = [] := by
        unfold normalizeExtensions at normalized
        split at normalized
        · next empty => exact List.isEmpty_iff.mp empty
        · cases normalized
      subst none
      simp
  | some normal =>
      have members := mem_normalizeExtensions_iff normalized
      simp only [Bool.or_eq_true, List.isEmpty_iff, List.contains_iff_mem]
      refine or_congr ?_ (members suffix)
      rw [List.eq_nil_iff_forall_not_mem]
      constructor
      · intro empty extension member
        by_contra some
        exact empty _ ((members _).mpr ⟨extension, member, some, rfl⟩)
      · rintro all suffix member
        obtain ⟨extension, given, some, -⟩ := (members suffix).mp member
        exact some (all extension given)

theorem admitsWay_iff {hidden skipBinary : Bool} {extensions : List String} {maxDepth : Option Int}
    {folders : List String} {name : String} :
    Wanted.AdmitsWay ⟨hidden, skipBinary, normalizeExtensions extensions, maxDepth⟩ 0 folders name ↔
      WantedWay hidden skipBinary extensions maxDepth folders name := by
  have visible : (∀ part ∈ folders ++ [name], (hidden || !isHidden part) = true) ↔
      hidden = true ∨ ∀ part ∈ folders ++ [name], part.toList.head? ≠ some '.' := by
    cases hidden with
    | true => simp
    | false => simp only [Bool.false_or, Bool.not_eq_true', isHidden_eq_false_iff,
        Bool.false_eq_true, false_or]
  have entered : (∀ folder ∈ folders, (!isIgnoredFolder folder) = true) ↔
      ∀ folder ∈ folders, folder ∉ ignoredFolders := by
    simp [isIgnoredFolder]
  have shallow : Wanted.admitsDepth ⟨hidden, skipBinary, normalizeExtensions extensions, maxDepth⟩
      (0 + folders.length) = true ↔ ∀ most ∈ maxDepth, (folders.length : Int) ≤ most := by
    rw [Wanted.admitsDepth_iff, Nat.zero_add]
  have text : (!skipBinary || !isBinary name) = true ↔
      skipBinary = false ∨ lowerSuffix name ∉ binarySuffixes := by
    simp [isBinary]
  constructor
  · rintro ⟨names, within, depth, file⟩
    have file := Bool.and_eq_true_iff.mp file
    exact ⟨visible.mp names, entered.mp within, shallow.mp depth, text.mp file.1,
      admitsSuffix_iff.mp file.2⟩
  · rintro ⟨names, within, depth, suffix, extension⟩
    exact ⟨visible.mpr names, entered.mpr within, shallow.mpr depth,
      Bool.and_eq_true_iff.mpr ⟨text.mpr suffix, admitsSuffix_iff.mpr extension⟩⟩

end BooleanSearch.Files
