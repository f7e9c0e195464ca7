import BooleanSearch.Proofs.Files.WalkedFiles
import BooleanSearch.Text.Utf8

/-!
# What a search lists

A search lists a single file at its root, or what a walk of the folder there yields.  The listing of a folder
comes to an end exactly if the system answers whatever the walk asks, and then it holds the wanted files that
can be come to.

Reports know files by the texts of their paths.  Since names hold no slashes, files below one root have
different texts, and what the system takes at the root it takes below it.
-/

namespace BooleanSearch

/-! ## Joined texts -/

variable {parts : List String} {char : Char}

/-- A character other than the slash stands in a joined text if it stands in one of the parts. -/
theorem mem_joinWith_iff (different : char ≠ '/') :
    char ∈ (joinWith "/" parts).toList ↔ ∃ part ∈ parts, char ∈ part.toList := by
  unfold joinWith
  induction parts with
  | nil => simp
  | cons first rest inductionHypothesis =>
      cases rest with
      | nil => simp
      | cons second rest =>
          rw [String.intercalate_cons_cons]
          simp only [String.toList_append, List.mem_append, inductionHypothesis,
            List.exists_mem_cons_iff]
          simp [different]

/-- What is joined before some parts does not depend on them. -/
theorem exists_lead_joinWith (before : List String) :
    ∃ lead, ∀ parts, parts ≠ [] →
      joinWith "/" (before ++ parts) = lead ++ joinWith "/" parts := by
  unfold joinWith
  induction before with
  | nil => exact ⟨"", fun parts _ => by simp⟩
  | cons first rest inductionHypothesis =>
      obtain ⟨lead, joined⟩ := inductionHypothesis
      refine ⟨first ++ "/" ++ lead, fun parts some_ => ?_⟩
      obtain ⟨second, others, shape⟩ :=
        List.exists_cons_of_ne_nil (List.append_ne_nil_of_right_ne_nil rest some_)
      rw [List.cons_append, shape, String.intercalate_cons_cons, ← shape, joined parts some_]
      simp only [String.append_assoc]

/-- Parts without slashes are the pieces of the text that they are joined to. -/
theorem splitOn_joinWith (some_ : parts ≠ []) (plain : ∀ part ∈ parts, '/' ∉ part.toList) :
    (joinWith "/" parts).toList.splitOn '/' = parts.map String.toList := by
  unfold joinWith
  rw [String.toList_intercalate]
  exact List.splitOn_intercalate '/' (by simpa using plain) (by simpa using some_)

/-- Parts without slashes can be told from the text that they are joined to. -/
theorem joinWith_inj {others : List String} (some_ : parts ≠ []) (othersSome : others ≠ [])
    (plain : ∀ part ∈ parts, '/' ∉ part.toList) (othersPlain : ∀ part ∈ others, '/' ∉ part.toList)
    (same : joinWith "/" parts = joinWith "/" others) : parts = others := by
  refine List.map_injective_iff.mpr (fun _ _ => String.toList_inj.mp) ?_
  rw [← splitOn_joinWith some_ plain, ← splitOn_joinWith othersSome othersPlain, same]

namespace Files

/-! ## Texts of paths -/

namespace Path

variable {path root : Path}

/-- A character that does not make up paths stands in the text of a path if it stands in its anchor or
in one of its names. -/
theorem mem_text_iff (noSlash : char ≠ '/') (noPoint : char ≠ '.') :
    char ∈ path.text.toList ↔
      char ∈ path.anchor.toList ∨ ∃ name ∈ path.names, char ∈ name.toList := by
  unfold text
  split
  · next empty =>
      rw [Bool.and_eq_true, String.isEmpty_iff, List.isEmpty_iff] at empty
      simp [empty, noPoint]
  · rw [String.toList_append, List.mem_append, mem_joinWith_iff noSlash]

theorem text_of_names (some_ : path.names ≠ []) :
    path.text = path.anchor ++ joinWith "/" path.names := by
  unfold text
  rw [if_neg]
  simp [some_]

/-- Below one root, files with different names without slashes have different texts. -/
theorem text_below_inj {names others : List String} (some_ : names ≠ []) (othersSome : others ≠ [])
    (plain : ∀ name ∈ names, '/' ∉ name.toList) (othersPlain : ∀ name ∈ others, '/' ∉ name.toList)
    (same : (root.below names).text = (root.below others).text) : names = others := by
  obtain ⟨lead, joined⟩ := exists_lead_joinWith root.names
  have written : ∀ way, way ≠ [] →
      (root.below way).text = root.anchor ++ (lead ++ joinWith "/" way) := by
    intro way filled
    rw [text_of_names (List.append_ne_nil_of_right_ne_nil _ filled)]
    exact congrArg (root.anchor ++ ·) (joined way filled)
  rw [written names some_, written others othersSome] at same
  exact joinWith_inj some_ othersSome plain othersPlain
    ((String.append_right_inj _).mp ((String.append_right_inj _).mp same))

/-- A path can be given to the system if none of its parts ends texts of the system. -/
theorem admissible_iff :
    Tree.admissible path = true ↔
      '\x00' ∉ path.anchor.toList ∧ ∀ name ∈ path.names, '\x00' ∉ name.toList := by
  unfold Tree.admissible
  rw [Bool.not_eq_true', List.contains_eq_mem, decide_eq_false_iff_not,
    mem_text_iff (by decide) (by decide)]
  push Not
  exact Iff.rfl

theorem mem_of_mem_splitChars {separator : Char} {chars piece : List Char}
    (member : piece ∈ splitChars separator chars) (inside : char ∈ piece) : char ∈ chars := by
  induction chars generalizing piece with
  | nil =>
      rw [splitChars, List.mem_singleton] at member
      exact member ▸ inside
  | cons first rest inductionHypothesis =>
      rw [splitChars] at member
      split at member
      · rcases List.mem_cons.mp member with rfl | later
        · cases inside
        · exact List.mem_cons_of_mem _ (inductionHypothesis later inside)
      · split at member
        · rw [List.mem_singleton.mp member, List.mem_singleton] at inside
          exact inside ▸ List.mem_cons_self
        · next head tail divided =>
            rcases List.mem_cons.mp member with rfl | later
            · rcases List.mem_cons.mp inside with rfl | deeper
              · exact List.mem_cons_self
              · exact List.mem_cons_of_mem _
                  (inductionHypothesis (divided ▸ List.mem_cons_self) deeper)
            · exact List.mem_cons_of_mem _
                (inductionHypothesis (divided ▸ List.mem_cons_of_mem _ later) inside)

theorem admissible_ofString {text : String} (plain : '\x00' ∉ text.toList) :
    Tree.admissible (ofString text) = true := by
  refine admissible_iff.mpr ⟨?_, fun name member inside => plain ?_⟩
  · unfold ofString anchorOf
    dsimp only
    split <;> decide
  · obtain ⟨piece, pieceMember, rfl⟩ := List.mem_map.mp (List.mem_of_mem_filter member)
    rw [String.toList_ofList] at inside
    exact mem_of_mem_splitChars pieceMember inside

/-- What the system takes at a root, it takes below it. -/
theorem admissible_text_below {names : List String} (admitted : Tree.admissible root = true)
    (plain : ∀ name ∈ names, '\x00' ∉ name.toList) :
    Tree.admissible (ofString (root.below names).text) = true := by
  obtain ⟨anchor, above⟩ := admissible_iff.mp admitted
  refine admissible_ofString ?_
  rw [mem_text_iff (by decide) (by decide)]
  rintro (anchored | ⟨name, inside, holds⟩)
  · exact anchor anchored
  · rcases List.mem_append.mp inside with upper | lower
    · exact above name upper holds
    · exact plain name lower holds

end Path

/-! ## Listings of files and folders -/

section

variable {tree standing : Tree} {root : Path} {wanted : Wanted}

theorem admissible_of_require (found : tree.require root = .ok standing) :
    Tree.admissible root = true := by
  unfold Tree.require at found
  split at found
  · next admitted => exact admitted
  · cases found

theorem isFile_of_require (found : tree.require root = .ok standing) :
    tree.isFile root = .ok !standing.isFolder := by
  have admitted := admissible_of_require found
  unfold Tree.require at found
  unfold Tree.isFile
  rw [if_pos admitted] at found ⊢
  split at found
  · cases found
    rfl
  · cases found

theorem listing_of_file {content : Bytes} {modified : Float} {reading : Option Refusal}
    (found : tree.require root = .ok (.file content modified reading)) (wanted : Wanted) :
    listing tree root wanted = .ok [root] := by
  unfold listing
  rw [isFile_of_require found]
  rfl

/-- A listing of a folder is a walk of what stands there. -/
theorem listing_of_folder {entries : List (String × Tree)} {refused : Refused}
    (found : tree.require root = .ok (.folder entries refused)) (wanted : Wanted) :
    listing tree root wanted = walkTree wanted root 0 (.folder entries refused) := by
  unfold listing
  rw [isFile_of_require found, found]
  by_cases shallow : wanted.admitsDepth 0 = true
  · simp [shallow, Tree.isFolder, bind, Except.bind]
  · simp [shallow, walkTree, Tree.isFolder, bind, Except.bind, pure, Except.pure]

/-- A listing comes to an end exactly if the system answers whatever the walk asks. -/
theorem exists_listing_iff (found : tree.require root = .ok standing)
    (apart : standing.NamesApart) :
    (∃ paths, listing tree root wanted = .ok paths) ↔ Answered wanted root 0 standing := by
  cases standing with
  | file content modified reading =>
      exact iff_of_true ⟨_, listing_of_file found wanted⟩ (answered_file content modified reading)
  | folder entries refused =>
      rw [listing_of_folder found]
      exact exists_walkTree_iff apart

/-- The names on the ways to the files of a tree are names that a system gives: none holds a slash or
the character that ends texts of the system. -/
def Tree.NamesPlain (tree : Tree) : Prop :=
  ∀ names, tree.Shows names → ∀ name ∈ names, '/' ∉ name.toList ∧ '\x00' ∉ name.toList

/-- The files of a listing have different texts, and the system takes these texts as paths. -/
theorem distinct_of_listing {paths : List Path} (found : tree.require root = .ok standing)
    (apart : standing.NamesApart) (plain : standing.NamesPlain)
    (listed : listing tree root wanted = .ok paths) :
    (paths.map Path.text).Nodup ∧
      ∀ path ∈ paths, Tree.admissible (Path.ofString path.text) = true := by
  have admitted := admissible_of_require found
  cases standing with
  | file content modified reading =>
      cases (listing_of_file found wanted).symm.trans listed
      refine ⟨List.nodup_singleton _, fun path member => ?_⟩
      rw [List.mem_singleton.mp member, ← root.below_nil]
      exact Path.admissible_text_below admitted nofun
  | folder entries refused =>
      rw [listing_of_folder found] at listed
      have ways : ∀ path ∈ paths, ∃ names, names ≠ [] ∧ path = root.below names ∧
          ∀ name ∈ names, '/' ∉ name.toList ∧ '\x00' ∉ name.toList := by
        intro path member
        obtain ⟨folders, name, rfl, shown, -⟩ := (mem_walkTree_iff apart listed).mp member
        exact ⟨_, List.append_ne_nil_of_right_ne_nil _ (List.cons_ne_nil _ _), rfl, plain _ shown⟩
      refine ⟨List.pairwise_map.mpr ((pairwise_walkTree apart listed).imp_of_mem ?_), ?_⟩
      · intro first second member otherMember less same
        obtain ⟨names, some_, rfl, namesPlain⟩ := ways first member
        obtain ⟨others, othersSome, rfl, othersPlain⟩ := ways second otherMember
        have equal : names = others := Path.text_below_inj some_ othersSome
          (fun name inside => (namesPlain name inside).1)
          (fun name inside => (othersPlain name inside).1) same
        exact List.lt_irrefl _ (equal ▸ less)
      · intro path member
        obtain ⟨names, -, rfl, namesPlain⟩ := ways path member
        exact Path.admissible_text_below admitted fun name inside => (namesPlain name inside).2

end

/-! ## A path that is just short enough -/

/-- Some names after a way into a folder and out of it again, several times. -/
def detour (times : Nat) (names : List String) : Path :=
  ⟨"", (List.replicate times ["d", ".."]).flatten ++ names⟩

theorem size_detour (times : Nat) {names : List String} (some_ : names ≠ []) :
    (detour times names).text.utf8ByteSize = 5 * times + (joinWith "/" names).utf8ByteSize := by
  have filled (count : Nat) : (List.replicate count ["d", ".."]).flatten ++ names ≠ [] :=
    List.append_ne_nil_of_right_ne_nil _ some_
  have joined : (joinWith "/" ((List.replicate times ["d", ".."]).flatten ++ names)).utf8ByteSize =
      5 * times + (joinWith "/" names).utf8ByteSize := by
    unfold joinWith
    induction times with
    | zero => simp
    | succ times inductionHypothesis =>
        obtain ⟨first, rest, shape⟩ := List.exists_cons_of_ne_nil (filled times)
        rw [List.replicate_succ, List.flatten_cons, List.append_assoc, shape]
        rw [shape] at inductionHypothesis
        change (String.intercalate "/" ("d" :: ".." :: first :: rest)).utf8ByteSize = _
        rw [String.intercalate_cons_cons, String.intercalate_cons_cons]
        simp only [String.utf8ByteSize_append, inductionHypothesis]
        rw [show "d".utf8ByteSize = 1 from rfl, show "/".utf8ByteSize = 1 from rfl,
          show "..".utf8ByteSize = 2 from rfl]
        omega
  rw [Path.text_of_names (filled times), String.utf8ByteSize_append]
  exact (Nat.zero_add _).trans joined

theorem admissible_detour (times : Nat) : Tree.admissible (detour times ["d"]) = true := by
  refine Path.admissible_iff.mpr ⟨by simp [detour], fun name member => ?_⟩
  simp only [detour, List.mem_append, List.mem_flatten, List.mem_replicate,
    List.mem_singleton] at member
  rcases member with ⟨_, ⟨-, rfl⟩, inside⟩ | rfl
  · revert name
    decide
  · decide

/-- A folder in a folder, with one file. -/
def innerFolder : List (String × Tree) :=
  [("a.txt", .file (Utf8.encodeString "cat") 0.0)]

def outerFolder : Tree :=
  .folder [("d", .folder innerFolder)]

theorem find_detour {times : Nat} (short : times ≤ 818) :
    outerFolder.find (detour times ["d"]) = .ok (.folder innerFolder) := by
  have size := size_detour times (show ["d"] ≠ [] by decide)
  rw [show (joinWith "/" ["d"]).utf8ByteSize = 1 from rfl] at size
  unfold Tree.find
  rw [if_neg (by rw [size, pathLimit]; omega)]
  change Tree.follow [] outerFolder ((List.replicate times ["d", ".."]).flatten ++ ["d"]) = _
  clear short size
  -- One way in and out again leads back to the outer folder, with nothing above it.
  induction times with
  | zero => rfl
  | succ times inductionHypothesis =>
      rw [List.replicate_succ, List.flatten_cons]
      exact inductionHypothesis

theorem require_detour {times : Nat} (short : times ≤ 818) :
    outerFolder.require (detour times ["d"]) = .ok (.folder innerFolder) := by
  unfold Tree.require
  rw [if_pos (admissible_detour times), find_detour short]

/-- The path of the file has two bytes more than the system takes. -/
theorem listing_detour :
    listing outerFolder (detour 818 ["d"]) {} =
      .error (.file .nameTooLong (detour 818 ["d", "a.txt"]).text) := by
  have child : (detour 818 ["d"]).child "a.txt" = detour 818 ["d", "a.txt"] := by
    rw [Path.child, detour, detour, List.append_assoc]
    rfl
  have long : pathLimit < (detour 818 ["d", "a.txt"]).text.utf8ByteSize := by
    rw [size_detour 818 (by decide)]
    decide +kernel
  have untold (refused : Refused) :
      faultAt? (detour 818 ["d"]) refused "a.txt" = some .nameTooLong := by
    rw [faultAt?, child, if_pos long]
  rw [listing_of_folder (require_detour (Nat.le_refl 818)), walkTree,
    if_pos (show Wanted.admitsDepth {} 0 = true from rfl)]
  dsimp only
  rw [innerFolder, walkEntries, walkEntries, inNameOrder_of_pairwise (List.pairwise_singleton _ _),
    walkEntry, if_pos (show Wanted.admitsName {} "a.txt" = true by decide +kernel), untold, child]
  rfl

/-! ## What a walk yields -/

/-- A walk of a folder yields the wanted files below it that can be come to, and no others, in the
lexicographic order of the names on their ways, so each of them once, if the system answers whatever the
walk asks.  A file can be come to if the folder and all folders on the way can be listed. -/
theorem listing_yields_wanted {tree : Tree} {root : Path} {entries : List (String × Tree)}
    {refused : Refused} (found : tree.require root = .ok (.folder entries refused))
    (apart : (Tree.folder entries refused).NamesApart) (hidden skipBinary : Bool)
    (extensions : List String) (maxDepth : Option Int)
    (answered : Answered ⟨hidden, skipBinary, normalizeExtensions extensions, maxDepth⟩ root 0
      (.folder entries refused)) :
    ∃ paths,
      listing tree root ⟨hidden, skipBinary, normalizeExtensions extensions, maxDepth⟩ = .ok paths ∧
      (∀ path, path ∈ paths ↔ ∃ folders name, path = root.below (folders ++ [name]) ∧
        (Tree.folder entries refused).Shows (folders ++ [name]) ∧
        WantedWay hidden skipBinary extensions maxDepth folders name) ∧
      (paths.Pairwise fun first second => first.names < second.names) ∧ paths.Nodup := by
  obtain ⟨paths, walked⟩ := (exists_walkTree_iff apart).mpr answered
  have ascending := pairwise_walkTree apart walked
  refine ⟨paths, (listing_of_folder found _).trans walked, fun path => ?_, ascending, ?_⟩
  · rw [mem_walkTree_iff apart walked]
    simp only [admitsWay_iff]
  · refine ascending.imp fun {first second} less same => ?_
    rw [same] at less
    exact List.lt_irrefl _ less

/-- A folder with sources, a picture, a hidden file, a folder that is never entered, and one that may not
be listed. -/
def sourceEntries : List (String × Tree) :=
  [("src", .folder [("b.py", .file #[] 0.0), ("a.py", .file #[] 0.0 (some .denied)), ("deep", .folder
      [("c.py", .file #[] 0.0)])]),
    ("build", .folder [("d.py", .file #[] 0.0)]), (".e.py", .file #[] 0.0), ("f.png", .file #[] 0.0),
    ("own", .folder [("g.py", .file #[] 0.0)] { listing := some .denied })]

theorem namesApart_sourceEntries : (Tree.folder sourceEntries).NamesApart := by
  have files (name : String) : ∀ entry ∈ [(name, Tree.file #[] 0.0)], Tree.NamesApart entry.2 := by
    rintro entry member
    obtain rfl := List.mem_singleton.mp member
    exact .file _ _ _
  refine .folder (by decide) ?_
  simp only [sourceEntries, List.forall_mem_cons]
  refine ⟨.folder (by decide) ?_, .folder (by decide) (files "d.py"), .file _ _ _, .file _ _ _,
    .folder (by decide) (files "g.py"), nofun⟩
  simp only [List.forall_mem_cons]
  exact ⟨.file _ _ _, .file _ _ _, .folder (by decide) (files "c.py"), nofun⟩

/-- The system answers what a walk of the sources asks. -/
theorem answered_sourceEntries :
    Answered ⟨false, true, normalizeExtensions ["PY"], some 1⟩ ⟨"", []⟩ 0
      (.folder sourceEntries) := by
  refine answered_folder_iff.mpr fun _ => ⟨⟨Or.inl rfl, fun _ => by decide +kernel⟩, fun _ => ?_⟩
  simp only [sourceEntries, List.forall_mem_cons]
  refine ⟨fun _ _ => ?_, fun _ entered => absurd entered (by decide), fun _ _ => answered_file _ _ _,
    fun _ _ => answered_file _ _ _, fun _ _ => ?_, nofun⟩
  · refine answered_folder_iff.mpr fun _ => ⟨⟨Or.inl rfl, fun _ => by decide +kernel⟩, fun _ => ?_⟩
    simp only [List.forall_mem_cons]
    refine ⟨fun _ _ => answered_file _ _ _, fun _ _ => answered_file _ _ _, fun _ _ => ?_, nofun⟩
    exact answered_folder_iff.mpr fun shallow => absurd shallow (by decide)
  · exact answered_folder_iff.mpr fun _ => ⟨⟨Or.inr rfl, nofun⟩, nofun⟩

/-- One folder deep, the extension `py` leaves two of the files that can be come to, of which one cannot
be read. -/
theorem listing_sourceEntries :
    ∃ paths, listing (.folder sourceEntries) ⟨"", []⟩
        ⟨false, true, normalizeExtensions ["PY"], some 1⟩ = .ok paths ∧
      ⟨"", ["src", "a.py"]⟩ ∈ paths ∧ ⟨"", ["src", "deep", "c.py"]⟩ ∉ paths ∧
      ⟨"", ["own", "g.py"]⟩ ∉ paths ∧
      (paths.Pairwise fun first second => first.names < second.names) := by
  have found : Tree.require (.folder sourceEntries) ⟨"", []⟩ = .ok (.folder sourceEntries) := rfl
  obtain ⟨paths, listed, members, ascending, -⟩ :=
    listing_yields_wanted found namesApart_sourceEntries false true ["PY"] (some 1)
      answered_sourceEntries
  refine ⟨paths, listed, (members _).mpr ⟨["src"], "a.py", rfl, ?_, ?_⟩, ?_, ?_, ascending⟩
  · exact .within rfl (List.mem_cons_self ..)
      (.within rfl (List.mem_cons_of_mem _ (List.mem_cons_self ..)) (.here #[] 0.0 _))
  · exact ⟨by decide, by decide, by decide, by decide +kernel, by decide +kernel⟩
  · intro deep
    obtain ⟨folders, name, way, -, wanted⟩ := (members _).mp deep
    have names : ["src", "deep", "c.py"] = folders ++ [name] := congrArg Path.names way
    have long : folders.length = 2 := by simpa using (congrArg List.length names).symm
    have shallow := wanted.shallow 1 rfl
    omega
  · intro unlisted
    obtain ⟨folders, name, way, shown, -⟩ := (members _).mp unlisted
    have names : ["own", "g.py"] = folders ++ [name] := congrArg Path.names way
    rw [← names] at shown
    obtain ⟨-, entry, member, rest, same, shown⟩ := Tree.shows_folder_iff.mp shown
    obtain ⟨ownName, rfl⟩ := List.cons.inj same
    simp only [sourceEntries, List.mem_cons, List.not_mem_nil, or_false] at member
    rcases member with rfl | rfl | rfl | rfl | rfl
    · exact absurd ownName (by decide)
    · exact absurd ownName (by decide)
    · exact absurd ownName (by decide)
    · exact absurd ownName (by decide)
    · exact absurd (Tree.shows_folder_iff.mp shown).1 nofun

/-- A folder with a folder that may be entered and not be listed. -/
def sealedFolder : Tree :=
  .folder [("own", .folder [("g.py", .file #[] 0.0)] { listing := some .denied })]

/-- A wanted file is not yielded if a folder on its way may not be listed, and not either if its path is too
long: then there is no listing at all. -/
theorem listing_misses_wanted :
    (sealedFolder.require ⟨"", ["own", "g.py"]⟩ = .ok (.file #[] 0.0) ∧
      WantedWay false true [] none ["own"] "g.py" ∧
      listing sealedFolder ⟨"", []⟩ ⟨false, true, normalizeExtensions [], none⟩ = .ok []) ∧
    (outerFolder.require (detour 818 ["d"]) = .ok (.folder innerFolder) ∧
      (Tree.folder innerFolder).Shows ["a.txt"] ∧ WantedWay false true [] none [] "a.txt" ∧
      listing outerFolder (detour 818 ["d"]) ⟨false, true, normalizeExtensions [], none⟩ =
        .error (.file .nameTooLong (detour 818 ["d", "a.txt"]).text)) := by
  refine ⟨⟨rfl, ?_, ?_⟩, require_detour (Nat.le_refl 818), ?_, ?_, listing_detour⟩
  · exact ⟨by decide, by decide, nofun, by decide +kernel, Or.inl nofun⟩
  · rw [sealedFolder, listing_of_folder rfl]
    decide +kernel
  · exact .within rfl (List.mem_singleton_self _) (.here _ _ _)
  · exact ⟨by decide, nofun, nofun, by decide +kernel, Or.inl nofun⟩

end Files

end BooleanSearch
