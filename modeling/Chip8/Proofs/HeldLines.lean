import Chip8.Log.Target
import Chip8.Proofs.Trees
import Mathlib.Data.List.Basic
/-!
Lines that were emitted, written and held.

A log keeps back the lines that it could not append and tries them again, oldest first, before the next line.
An attempt may fail at any time and for any reason, and it may fail for one line and go well for the next. The
question is what becomes of the lines: that none is lost, that none is written twice, and what their order is.

1. **One emit** — an emit is one walk through the held lines and the new one (`emit_eq`), and `attempts`
   writes down how each attempt of it went. That only parts the lines: those of the attempts that went well
   are appended to the file (`written`), the others are held (`missed`). Nothing else happens to a line, so
   the two lists are the lines that were tried, in another order (`perm_attempts`).

2. **Invariant** — `Accounts`: the file holds what it held at the start and then the lines that were appended;
   these and the held ones are the emitted lines, each as often as it was emitted; and the order is that of
   the emits as long as the attempts of each emit go well or fail together. An emit keeps it
   (`Accounts.emit`), and so does a change of the world that leaves the content of the file alone
   (`Accounts.change`).

3. **Courses** — `Course.From` says what can come of a log: emits, and such changes between them. The accounts
   hold at every point of a course, by induction on it (`Course.From.accounts`).

4. **Files** — the one assumption on an attempt is that it writes its line whole or not at all (`Whole`). It
   holds of files in a tree (`whole_appendLine`), and the log file of the program takes such a course
   (`FileLog.from_write`).
-/

namespace Chip8.Log

variable {σ : Type} {append : Append σ} {content : σ → List UInt8} {encode : String → List UInt8}

/-! ## One emit

Lines are tried in order. Those that fail are held and tried again before the next line, so the lines that
are written and those that are held are always what was emitted, up to order. -/

/-- The attempts to append lines one after another: each line, and whether it went well. -/
def attempts (append : Append σ) : List String → σ → List (String × Bool)
  | [], _ => []
  | line :: rest, world => (line, (append line world).1) :: attempts append rest (append line world).2

/-- The lines of the attempts that went well, in the order of the attempts. -/
def written (tries : List (String × Bool)) : List String := (tries.filter (·.2)).map (·.1)

/-- The lines of the attempts that failed, in the order of the attempts. -/
def missed (tries : List (String × Bool)) : List String := (tries.filter (!·.2)).map (·.1)

/-- Every line is tried once, in order. -/
theorem map_attempts (lines : List String) (world : σ) : (attempts append lines world).map (·.1) = lines := by
  induction lines generalizing world with
  | nil => rfl
  | cons line rest ih => rw [attempts, List.map_cons, ih]

/-- The lines that remain are those whose attempts failed. -/
theorem appendAll_eq_missed (lines : List String) (world : σ) :
    (appendAll append lines world).1 = missed (attempts append lines world) := by
  induction lines generalizing world with
  | nil => rfl
  | cons line rest ih =>
    rw [appendAll, attempts]
    dsimp only
    rw [ih]
    cases hdone : (append line world).1 with
    | true => rfl
    | false => rfl

/-- To append lines and then more is to append all of them, the second from the world that the first left.
    -/
theorem appendAll_append (lines more : List String) (world : σ) :
    appendAll append (lines ++ more) world =
      ((appendAll append lines world).1 ++ (appendAll append more (appendAll append lines world).2).1,
        (appendAll append more (appendAll append lines world).2).2) := by
  induction lines generalizing world with
  | nil => rfl
  | cons line rest ih =>
    rw [List.cons_append, appendAll, appendAll]
    dsimp only
    rw [ih]
    cases (append line world).1 with
    | true => rfl
    | false => rfl

/-- An emit tries the held lines and then the new one. -/
theorem emit_eq (held : List String) (line : String) (world : σ) :
    emit append held line world = appendAll append (held ++ [line]) world := by
  rw [appendAll_append, emit]
  dsimp only
  rw [appendAll]
  dsimp only
  rw [appendAll]
  cases (append line (appendAll append held world).2).1 with
  | true => exact congrArg (·, _) (List.append_nil _).symm
  | false => rfl

/-- Every line that is tried is written or missed. -/
theorem perm_attempts (tries : List (String × Bool)) :
    (written tries ++ missed tries).Perm (tries.map (·.1)) := by
  rw [written, missed, ← List.map_append]
  exact (List.filter_append_perm (·.2) tries).map _

section

variable {tries : List (String × Bool)}

theorem written_of_all (h : ∀ a ∈ tries, a.2 = true) : written tries = tries.map (·.1) := by
  rw [written, List.filter_eq_self.mpr h]

theorem missed_of_all (h : ∀ a ∈ tries, a.2 = true) : missed tries = [] := by
  rw [missed, List.map_eq_nil_iff, List.filter_eq_nil_iff]
  intro a ha
  rw [h a ha]
  exact Bool.false_ne_true

theorem written_of_none (h : ∀ a ∈ tries, a.2 = false) : written tries = [] := by
  rw [written, List.map_eq_nil_iff, List.filter_eq_nil_iff]
  intro a ha
  rw [h a ha]
  exact Bool.false_ne_true

theorem missed_of_none (h : ∀ a ∈ tries, a.2 = false) : missed tries = tries.map (·.1) := by
  have hall : ∀ a ∈ tries, (!a.2) = true := by
    intro a ha
    rw [h a ha]
    rfl
  rw [missed, List.filter_eq_self.mpr hall]

end

/-- All attempts went well, or none did. -/
def Uniform (tries : List (String × Bool)) : Prop := ∃ done, ∀ a ∈ tries, a.2 = done

/-- An attempt writes its line whole, or it writes nothing. -/
structure Whole (append : Append σ) (content : σ → List UInt8) (encode : String → List UInt8) : Prop where
  done : ∀ line world, (append line world).1 = true →
    content (append line world).2 = content world ++ encode line
  failed : ∀ line world, (append line world).1 = false → content (append line world).2 = content world

/-- What is written is added to the content. -/
theorem Whole.appendAll (h : Whole append content encode) (lines : List String) (world : σ) :
    content (appendAll append lines world).2 =
      content world ++ (written (attempts append lines world)).flatMap encode := by
  induction lines generalizing world with
  | nil => exact (List.append_nil _).symm
  | cons line rest ih =>
    show content (Log.appendAll append rest (append line world).2).2 = _
    rw [ih, attempts]
    cases hdone : (append line world).1 with
    | true =>
      rw [h.done line world hdone, List.append_assoc]
      rfl
    | false =>
      rw [h.failed line world hdone]
      rfl

/-! ## All emits

The invariant of a course, with the lines that were emitted so far beside the log. -/

/-- A log in a world: the lines that are held, and what happened so far. -/
structure Course (σ : Type) where
  held : List String
  world : σ
  /-- The lines that were emitted. -/
  emitted : List String := []
  /-- The attempts of each emit. -/
  rounds : List (List (String × Bool)) := []

namespace Course

/-- One more line is emitted. -/
def emit (append : Append σ) (line : String) (x : Course σ) : Course σ :=
  let (held, world) := Log.emit append x.held line x.world
  ⟨held, world, x.emitted ++ [line], x.rounds ++ [attempts append (x.held ++ [line]) x.world]⟩

/-- The lines that were appended to the file in all rounds. -/
def appended (x : Course σ) : List String := written x.rounds.flatten

variable {x : Course σ} {line : String}

theorem held_emit : (x.emit append line).held = missed (attempts append (x.held ++ [line]) x.world) := by
  rw [← appendAll_eq_missed, ← emit_eq]
  rfl

/-- Nothing is held after an emit whose attempts all go well. -/
theorem held_emit_of_all (h : ∀ a ∈ attempts append (x.held ++ [line]) x.world, a.2 = true) :
    (x.emit append line).held = [] := by
  rw [held_emit]
  exact missed_of_all h

theorem world_emit : (x.emit append line).world = (appendAll append (x.held ++ [line]) x.world).2 := by
  rw [← emit_eq]
  rfl

theorem appended_emit : (x.emit append line).appended =
    x.appended ++ written (attempts append (x.held ++ [line]) x.world) := by
  show written (x.rounds ++ [attempts append (x.held ++ [line]) x.world]).flatten = _
  rw [List.flatten_append, List.flatten_singleton, written, List.filter_append, List.map_append]
  rfl

/-- What can come of a log that begins without lines, while other things happen to the world. -/
inductive From (append : Append σ) (content : σ → List UInt8) (start : σ) : Course σ → Prop
  | start : From append content start ⟨[], start, [], []⟩
  | emit {x : Course σ} (line : String) : From append content start x →
      From append content start (x.emit append line)
  | change {x : Course σ} (world : σ) : From append content start x → content world = content x.world →
      From append content start { x with world }

end Course

/-- What is known of the lines that were emitted. -/
structure Accounts (append : Append σ) (content : σ → List UInt8) (encode : String → List UInt8) (start : σ)
    (x : Course σ) : Prop where
  /-- The file holds what it held, and then the lines that were appended. -/
  content : content x.world = content start ++ x.appended.flatMap encode
  /-- The appended lines and the held ones are the emitted lines, each as often as it was emitted. -/
  all : (x.appended ++ x.held).Perm x.emitted
  /-- The appended lines and then the held ones are in the order of the emits, if the attempts of each emit
      went well or failed together. -/
  inOrder : (∀ round ∈ x.rounds, Uniform round) → x.appended ++ x.held = x.emitted

namespace Accounts

variable {start : σ} {x : Course σ}

/-- An emit keeps the accounts: it parts the lines that were held and the new one into those that it appends
    and those that are held from now on. -/
theorem emit (h : Accounts append content encode start x) (hwhole : Whole append content encode)
    (line : String) : Accounts append content encode start (x.emit append line) := by
  have hperm := perm_attempts (attempts append (x.held ++ [line]) x.world)
  rw [map_attempts] at hperm
  have hmore : (x.appended ++ (x.held ++ [line])).Perm (x.emitted ++ [line]) := by
    rw [← List.append_assoc]
    exact h.all.append_right _
  refine ⟨?_, ?_, ?_⟩
  · rw [Course.world_emit, hwhole.appendAll, h.content, Course.appended_emit, List.flatMap_append,
      List.append_assoc]
  · rw [Course.appended_emit, Course.held_emit, List.append_assoc]
    exact (hperm.append_left _).trans hmore
  · intro hrounds
    have hbefore := h.inOrder fun round hround => hrounds round (List.mem_append_left _ hround)
    have hlast := hrounds _ (List.mem_append_right _ List.mem_cons_self)
    have hemitted : (x.emit append line).emitted = x.appended ++ x.held ++ [line] := by
      rw [hbefore]
      rfl
    rw [Course.appended_emit, Course.held_emit, hemitted, List.append_assoc, List.append_assoc]
    -- the lines of this emit are all appended or all held, so that its walk does not turn them round
    obtain ⟨done, hdone⟩ := hlast
    cases done with
    | true => rw [written_of_all hdone, missed_of_all hdone, map_attempts, List.append_nil]
    | false => rw [written_of_none hdone, missed_of_none hdone, map_attempts, List.nil_append]

/-- Other changes of the world do not touch the lines. -/
theorem change (h : Accounts append content encode start x) {world : σ}
    (hworld : content world = content x.world) :
    Accounts append content encode start { x with world } :=
  ⟨hworld.trans h.content, h.all, h.inOrder⟩

end Accounts

/-- The accounts of a log hold at every point of its course. -/
theorem Course.From.accounts {start : σ} {x : Course σ} (hx : From append content start x)
    (hwhole : Whole append content encode) : Accounts append content encode start x := by
  induction hx with
  | start => exact ⟨(List.append_nil _).symm, List.Perm.refl _, fun _ => rfl⟩
  | emit line _ ih => exact ih.emit hwhole line
  | change world _ hworld ih => exact ih.change hworld

/-! ## Files in a tree

A write to a file of a tree either appends all bytes of the line or none, so what the theorem assumes of a
file holds for files in trees. -/

/-- The bytes of a line in a file. -/
def lineBytes (line : String) : List UInt8 := (line ++ "\n").toUTF8.toList

/-- A file in a tree gets a line whole, or the tree stays as it is. -/
theorem whole_appendLine (path : String) : Whole (appendLine path) (·.bytesAt path) lineBytes := by
  constructor
  · intro line tree hdone
    rw [appendLine] at hdone ⊢
    -- appending fails before the tree is changed, or puts the whole line there
    cases happend : tree.append path (line ++ "\n").toUTF8.toList with
    | error e =>
      rw [happend] at hdone
      cases hdone
    | ok u => exact FileTree.bytesAt_change happend
  · intro line tree hfailed
    rw [appendLine] at hfailed ⊢
    cases happend : tree.append path (line ++ "\n").toUTF8.toList with
    | error e => rfl
    | ok u =>
      rw [happend] at hfailed
      cases hfailed

/-- The log file of the program takes a course: to write a record is to emit the line that its format renders,
    with the lines that the file holds. -/
theorem FileLog.from_write {f g : FileLog} {r : LogRecord} {start u : FileTree} {x : Course FileTree}
    (hx : Course.From (appendLine f.path) (·.bytesAt f.path) start x) (hheld : x.held = f.held)
    (h : f.write r x.world = .ok (g, u)) : ∃ line y, f.format.render ⟨programLog, r⟩ = .ok line ∧
      Course.From (appendLine f.path) (·.bytesAt f.path) start y ∧ y.emitted = x.emitted ++ [line] ∧
      g = { f with held := y.held } ∧ u = y.world := by
  rw [write] at h
  cases hline : f.format.render ⟨programLog, r⟩ with
  | error e =>
    rw [hline] at h
    cases h
  | ok line =>
    rw [hline] at h
    dsimp only at h
    -- a path that holds a null is an error of the caller; any other path is tried
    split at h
    · cases h
    · rw [← hheld] at h
      obtain ⟨rfl, rfl⟩ := Prod.mk.inj (Except.ok.inj h)
      exact ⟨line, _, rfl, .emit line hx, rfl, rfl, rfl⟩

/-! ## All courses

The theorem, and a course in which a directory comes to be missing in between. -/

/-- No line that is emitted is lost or written twice, whichever attempts to append lines go well, and what is
    held is written as soon as writing works. A record that a log file writes is emitted in this sense: the
    accounts hold of the file that is left, with the line of the record as the latest that was emitted. -/
theorem emitted_written_or_held (hwhole : Whole append content encode) {start : σ} {x : Course σ}
    (hx : Course.From append content start x) : Accounts append content encode start x ∧
      (∀ line, (∀ a ∈ attempts append (x.held ++ [line]) x.world, a.2 = true) →
        (x.emit append line).held = []) ∧
      ∀ (f g : FileLog) (r : LogRecord) (tree u : FileTree) (y : Course FileTree),
        Course.From (appendLine f.path) (·.bytesAt f.path) tree y → y.held = f.held →
        f.write r y.world = .ok (g, u) → ∃ line z, f.format.render ⟨programLog, r⟩ = .ok line ∧
          Accounts (appendLine f.path) (·.bytesAt f.path) lineBytes tree z ∧
          z.emitted = y.emitted ++ [line] ∧ g = { f with held := z.held } ∧ u = z.world := by
  refine ⟨hx.accounts hwhole, ?_, ?_⟩
  · intro line hall
    exact Course.held_emit_of_all hall
  · intro f g r tree u y hy hheld hwrite
    obtain ⟨line, z, hline, hz, hemitted, hleft, hworld⟩ := FileLog.from_write hy hheld hwrite
    exact ⟨line, z, hline, hz.accounts (whole_appendLine f.path), hemitted, hleft, hworld⟩

/-- A tree with nothing in it. -/
def bare : FileTree := ⟨[], []⟩

/-- The first of two lines is emitted when the directory of the file is missing, and then it is made. -/
def between : Course FileTree :=
  { (⟨[], bare, [], []⟩ : Course FileTree).emit (appendLine "later/out.log") "first" with
    world := bare.put ["later"] .directory }

theorem emitted_written_or_held_later :
    Whole (appendLine "later/out.log") (·.bytesAt "later/out.log") lineBytes ∧ between.held = ["first"] ∧
      (between.emit (appendLine "later/out.log") "second").held = [] ∧
      (between.emit (appendLine "later/out.log") "second").world.bytesAt "later/out.log" =
        lineBytes "first" ++ lineBytes "second" := by
  have hwhole := whole_appendLine "later/out.log"
  have hbetween : Course.From (appendLine "later/out.log") (·.bytesAt "later/out.log") bare between :=
    .change _ (.emit "first" .start) rfl
  -- once the directory is there both lines can be appended, the one that was held first
  have htries : attempts (appendLine "later/out.log") ["first", "second"] between.world =
      [("first", true), ("second", true)] := rfl
  have hheld : (between.emit (appendLine "later/out.log") "second").held = [] := by
    refine (emitted_written_or_held hwhole hbetween).2.1 "second" ?_
    show ∀ a ∈ attempts (appendLine "later/out.log") ["first", "second"] between.world, a.2 = true
    rw [htries]
    decide
  refine ⟨hwhole, rfl, hheld, ?_⟩
  have happended : (between.emit (appendLine "later/out.log") "second").appended = ["first", "second"] := rfl
  have hcontent := (emitted_written_or_held hwhole (.emit "second" hbetween)).1.content
  rw [happended] at hcontent
  rw [hcontent]
  show [] ++ (lineBytes "first" ++ (lineBytes "second" ++ [])) = _
  rw [List.nil_append, List.append_nil]

end Chip8.Log
