import Chip8.ProgramFile
/-!
What comes of reading a program from a file.

A program file must hold from 1 to 3584 bytes. Loading is meant to answer with the program or with the reason
why there is none; but the reading of a file can fail in ways that are not errors of the file system, and
these are not caught.

1. **Disks** — for any disk, `Program.ofFile_eq_loaded_iff` says which files are programs,
   `Program.ofFile_eq_refused_iff` why the others are refused, and `Program.ofFile_eq_error_iff` when there is
   no answer at all: on an error that is not one of the file system.

2. **Trees** — a tree of files has one such error only, and gives it exactly for the paths with a null
   character (`FileTree.read_not_fromSystem_iff`). Along any other path nothing goes wrong but what a file
   system tells of, by induction along the path (`FileTree.fromSystem_of_follow`).
-/

namespace Chip8

/-! ## Reading a tree

A path is walked name by name. What goes wrong on the way comes from the file system, with the one exception
of a path that holds a null character and is refused before the walk. -/

namespace FileTree

variable {t : FileTree} {path : String}

/-- On the way along a path nothing goes wrong but what a file system tells of. -/
theorem fromSystem_of_follow {place names : List String} {e : FileError}
    (h : t.follow path place names = .error e) : e.fromSystem = true := by
  fun_induction follow t path place names with
  | case1 place => cases h
  | case2 place name rest hnone => cases h; rfl
  | case3 place name rest bytes hfile => cases h; rfl
  | case4 place name rest hdir hstay ih => exact ih h
  | case5 place name rest hdir hstay hup ih => exact ih h
  | case6 place name rest hdir hstay hup hlong => cases h; rfl
  | case7 place name rest hdir hstay hup hlong ih => exact ih h

theorem locate_of_null (h : '\x00' ∈ path.toList) : t.locate path = .error .embeddedNull := by
  rw [locate, locateBy, if_pos (List.contains_iff_mem.mpr h)]

theorem fromSystem_of_locate (hpath : '\x00' ∉ path.toList) {e : FileError} (h : t.locate path = .error e) :
    e.fromSystem = true := by
  rw [locate, locateBy, if_neg fun hnull => hpath (List.contains_iff_mem.mp hnull)] at h
  split at h
  · cases h
    rfl
  · split at h
    · cases h
      rfl
    · exact fromSystem_of_follow h

theorem find_of_locate_error {e : FileError} (h : t.locate path = .error e) : t.find path = .error e := by
  rw [find, lookUp, h]
  rfl

/-- A path that leads somewhere names what stands there, and if nothing does, the file system tells. -/
theorem find_of_locate_ok {place : List String} (h : t.locate path = .ok place) : t.find path =
    match t.at? place with
    | some node => .ok node
    | none => .error (.notFound path) := by
  rw [find, lookUp, h]
  show Functor.map _ (match t.at? place with | some node => _ | none => _) = _
  cases t.at? place <;> rfl

theorem fromSystem_of_find (hpath : '\x00' ∉ path.toList) {e : FileError} (h : t.find path = .error e) :
    e.fromSystem = true := by
  cases hlocate : t.locate path with
  | error e' =>
    rw [find_of_locate_error hlocate] at h
    obtain rfl := Except.error.inj h
    exact fromSystem_of_locate hpath hlocate
  | ok place =>
    rw [find_of_locate_ok hlocate] at h
    split at h
    · cases h
    · cases h
      rfl

theorem read_eq (t : FileTree) (path : String) : t.read path =
    match t.find path with
    | .ok (.file bytes) => .ok bytes
    | .ok .directory => .error (.isDirectory path)
    | .error e => .error e := by
  rw [read]
  cases t.find path with
  | error e => rfl
  | ok node => cases node <;> rfl

/-- What can be read is the content of a file. -/
theorem read_eq_ok_iff (bytes : List UInt8) : t.read path = .ok bytes ↔ t.find path = .ok (.file bytes) := by
  rw [read_eq]
  split
  · next content h => rw [h, Except.ok.injEq, Except.ok.injEq, FileNode.file.injEq]
  · next h => rw [h]; exact ⟨nofun, nofun⟩
  · next e h => rw [h]; exact ⟨nofun, nofun⟩

/-- The paths with a null character are those that the file system is not even asked for, so the error that they
    give is not one of the file system. -/
theorem read_not_fromSystem_iff (e : FileError) : t.read path = .error e ∧ e.fromSystem = false ↔
    '\x00' ∈ path.toList ∧ e = .embeddedNull := by
  by_cases hpath : '\x00' ∈ path.toList
  · rw [read_eq, find_of_locate_error (locate_of_null hpath)]
    constructor
    · rintro ⟨h, -⟩
      exact ⟨hpath, (Except.error.inj h).symm⟩
    · rintro ⟨-, rfl⟩
      exact ⟨rfl, rfl⟩
  · -- a path without a null is looked for, and whatever that comes to is from the file system
    refine ⟨fun ⟨h, hsystem⟩ => ?_, fun ⟨h, _⟩ => absurd h hpath⟩
    rw [read_eq] at h
    split at h
    · cases h
    · cases h
      cases hsystem
    · next e' hfind =>
      obtain rfl := Except.error.inj h
      rw [fromSystem_of_find hpath hfind] at hsystem
      cases hsystem

end FileTree

/-! ## Programs

From the bytes of a file to a program: what the file system does not let be read, what is empty and what is
too large is refused, each with a message of its own. -/

namespace Program

variable {disk : Disk} {path : String}

/-- Why the file at a path is no program. -/
inductive Refused (disk : Disk) (path : String) : ImageError → Prop
  /-- The file system does not let it be read. -/
  | unreadable {e : FileError} (read : disk.read path = .error e) (system : e.fromSystem = true) :
    Refused disk path (.unreadable path e.message)
  | empty (read : disk.read path = .ok []) : Refused disk path .empty
  | tooLarge {content : List UInt8} (read : disk.read path = .ok content) (large : 3584 < content.length) :
    Refused disk path (.tooLarge content.length)

/-- Only images that hold nothing or too much are refused. -/
theorem ofBytes_eq_error_iff (content : List UInt8) (e : ImageError) : ofBytes content = .error e ↔
    content = [] ∧ e = .empty ∨ 3584 < content.length ∧ e = .tooLarge content.length := by
  rcases Nat.eq_zero_or_pos content.length with hzero | hpos
  · obtain rfl := List.eq_nil_of_length_eq_zero hzero
    rw [show ofBytes [] = .error .empty from rfl, Except.error.injEq]
    simp [eq_comm]
  · have hne : content ≠ [] := List.ne_nil_of_length_pos hpos
    -- images that hold something are refused or loaded by their length alone
    by_cases hlarge : 3584 < content.length
    · have hrefused : ofBytes content = .error (.tooLarge content.length) := by
        rw [ofBytes, if_neg (by simpa using hne),
          dif_neg (show ¬content.length ≤ maxImageSize from Nat.not_le.mpr hlarge)]
      rw [hrefused, Except.error.injEq]
      simp [hne, hlarge, eq_comm]
    · have hloads : ofBytes content = .ok ⟨"", content, Nat.le_of_not_lt hlarge⟩ :=
        (ofBytes_eq_ok_iff content _).mpr ⟨rfl, rfl, hne, Nat.le_of_not_lt hlarge⟩
      rw [hloads]
      simp [hne, hlarge]

theorem ofFile_of_content {content : List UInt8} (h : disk.read path = .ok content) :
    ofFile disk path = .ok ((fun p => { p with file := path }) <$> ofBytes content) := by
  rw [ofFile, h]

theorem ofFile_of_unreadable {e : FileError} (h : disk.read path = .error e) : ofFile disk path =
    if e.fromSystem then .ok (.error (.unreadable path e.message)) else .error e := by
  rw [ofFile, h]

/-- The files of 1 to 3584 bytes are programs, as they are. -/
theorem ofFile_eq_loaded_iff (p : Program) : ofFile disk path = .ok (.ok p) ↔
    ∃ content, disk.read path = .ok content ∧ 1 ≤ content.length ∧ content.length ≤ 3584 ∧
      p.bytes = content ∧ p.file = path := by
  -- a file that cannot be read is no program, whatever becomes of the error
  cases hread : disk.read path with
  | error e =>
    rw [ofFile_of_unreadable hread]
    refine ⟨fun h => ?_, ?_⟩
    · split at h <;> cases h
    · rintro ⟨content, hcontent, -⟩
      cases hcontent
  | ok content =>
    rw [ofFile_of_content hread]
    constructor
    · intro h
      cases hbytes : ofBytes content with
      | error e => rw [hbytes] at h; cases h
      | ok q =>
        rw [hbytes] at h
        obtain rfl := Except.ok.inj (Except.ok.inj h)
        obtain ⟨-, hq, hne, hle⟩ := (ofBytes_eq_ok_iff content q).mp hbytes
        exact ⟨content, rfl, List.length_pos_iff.mpr hne, hle, hq, rfl⟩
    · rintro ⟨content', hcontent, hpos, hle, hbytes, hfile⟩
      obtain rfl := Except.ok.inj hcontent
      have hloads : ofBytes content = .ok ⟨"", content, hle⟩ :=
        (ofBytes_eq_ok_iff content _).mpr ⟨rfl, rfl, List.ne_nil_of_length_pos hpos, hle⟩
      obtain ⟨file, bytes, fits⟩ := p
      obtain rfl : bytes = content := hbytes
      obtain rfl : file = path := hfile
      rw [hloads]
      rfl

/-- The files that are no programs are refused for what is wrong with them. -/
theorem ofFile_eq_refused_iff (e : ImageError) : ofFile disk path = .ok (.error e) ↔ Refused disk path e := by
  -- a file is refused over how it is read, or over what it holds
  cases hread : disk.read path with
  | error e' =>
    rw [ofFile_of_unreadable hread]
    constructor
    · intro h
      split at h
      · next hsystem =>
        obtain rfl := Except.error.inj (Except.ok.inj h)
        exact .unreadable hread hsystem
      · cases h
    · intro h
      cases h with
      | unreadable read system =>
        obtain rfl := Except.error.inj (hread.symm.trans read)
        rw [if_pos system]
      | empty read | tooLarge read => cases hread.symm.trans read
  | ok content =>
    rw [ofFile_of_content hread]
    constructor
    · intro h
      cases hbytes : ofBytes content with
      | ok q => rw [hbytes] at h; cases h
      | error e' =>
        rw [hbytes] at h
        obtain rfl := Except.error.inj (Except.ok.inj h)
        rcases (ofBytes_eq_error_iff content e').mp hbytes with ⟨rfl, rfl⟩ | ⟨hlarge, rfl⟩
        · exact .empty hread
        · exact .tooLarge hread hlarge
    · intro h
      cases h with
      | unreadable read => cases hread.symm.trans read
      | empty read =>
        obtain rfl := Except.ok.inj (hread.symm.trans read)
        rfl
      | tooLarge read large =>
        obtain rfl := Except.ok.inj (hread.symm.trans read)
        rw [(ofBytes_eq_error_iff content _).mpr (.inr ⟨large, rfl⟩)]
        rfl

/-- There is no answer on an error that is not one of the file system. -/
theorem ofFile_eq_error_iff (e : FileError) : ofFile disk path = .error e ↔
    disk.read path = .error e ∧ e.fromSystem = false := by
  cases hread : disk.read path with
  | ok content => rw [ofFile_of_content hread]; exact ⟨nofun, nofun⟩
  | error e' =>
    rw [ofFile_of_unreadable hread, Except.error.injEq]
    split
    · next hsystem =>
      refine ⟨nofun, ?_⟩
      rintro ⟨rfl, hnot⟩
      rw [hsystem] at hnot
      cases hnot
    · next hsystem =>
      rw [Except.error.injEq]
      constructor
      · rintro rfl
        exact ⟨rfl, Bool.eq_false_iff.mpr hsystem⟩
      · exact fun h => h.1

/-- Whatever a disk holds, the files of 1 to 3584 bytes are programs and the others are refused, if they can be
    read or a file system tells why not. In a tree of files that leaves the paths with a null character, for
    which there is no answer. -/
theorem ofFile_loads_refuses_or_fails (path : String) :
    (∀ disk : Disk,
      (∀ p, ofFile disk path = .ok (.ok p) ↔
        ∃ content, disk.read path = .ok content ∧ 1 ≤ content.length ∧ content.length ≤ 3584 ∧
          p.bytes = content ∧ p.file = path) ∧
      (∀ e, ofFile disk path = .ok (.error e) ↔ Refused disk path e) ∧
      ∀ e, ofFile disk path = .error e ↔ disk.read path = .error e ∧ e.fromSystem = false) ∧
    ∀ t : FileTree,
      (∀ content, t.disk.read path = .ok content ↔ t.find path = .ok (.file content)) ∧
      ∀ e, ofFile t.disk path = .error e ↔ '\x00' ∈ path.toList ∧ e = .embeddedNull := by
  refine ⟨fun disk => ⟨ofFile_eq_loaded_iff, ofFile_eq_refused_iff, ofFile_eq_error_iff⟩, fun t => ⟨?_, ?_⟩⟩
  · exact FileTree.read_eq_ok_iff
  · exact fun e => (ofFile_eq_error_iff e).trans (FileTree.read_not_fromSystem_iff e)

/-- There is no answer for the name of a program with a null character behind it. -/
theorem ofFile_loads_refuses_or_fails_null : let t : FileTree := ⟨[], [(["maze.ch8"], .file [0, 224])]⟩
    (∃ p, ofFile t.disk "maze.ch8" = .ok (.ok p) ∧ p.bytes = [0, 224]) ∧
      ofFile t.disk "maze.ch8\x00" = .error .embeddedNull := by
  intro t
  have hread : t.disk.read "maze.ch8" = .ok [0, 224] :=
    (((ofFile_loads_refuses_or_fails "maze.ch8").2 t).1 _).mpr rfl
  constructor
  · exact ⟨⟨"maze.ch8", [0, 224], by decide⟩,
      (((ofFile_loads_refuses_or_fails "maze.ch8").1 t.disk).1 _).mpr
        ⟨_, hread, by decide, by decide, rfl, rfl⟩, rfl⟩
  · exact (((ofFile_loads_refuses_or_fails "maze.ch8\x00").2 t).2 _).mpr ⟨by decide, rfl⟩

end Program

end Chip8
