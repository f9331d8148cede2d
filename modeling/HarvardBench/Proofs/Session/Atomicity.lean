import HarvardBench.File
import HarvardBench.Proofs.Memory.Images
import HarvardBench.Proofs.Memory.Procedures
import HarvardBench.Proofs.Session.Bounds

/-! A program that cannot be loaded changes nothing.

Loading is written here as the procedure that it is: it assembles into integers, checks them,
and then changes the parts of a session one after another. Each procedure is shown to be all
or nothing, with the outcome of the function that the session is run with. In particular
no code that is assembled exceeds a word.
-/

set_option autoImplicit false

namespace HarvardBench

/-- The code of an instruction, as a number that could be of any size. -/
def Instruction.encoding (instruction : Instruction) : Int :=
  instruction.opcode.code * 4096 + instruction.payload

theorem Instruction.encoding_bounds (instruction : Instruction) :
    0 ≤ instruction.encoding ∧ instruction.encoding ≤ 65535 := by
  have operation := instruction.opcode.code_lt
  have fields := instruction.payload_lt
  unfold encoding
  omega

theorem Instruction.toNat_word_eq_encoding (instruction : Instruction) :
    (instruction.word.toNat : Int) = instruction.encoding := by
  rw [toNat_word, encoding, Int.natCast_add, Int.natCast_mul]
  rfl

namespace Assembly

def Line.encoding (line : Line) : Except Failure Int :=
  match instruction line.code with
  | .ok instruction => .ok instruction.encoding
  | .error failure => .error (failure.atLine line.number)

def encodings (text : List Char) : Except Failure (List Int × Symbols) := do
  let (lines, symbols) ← resolveText text
  let codes ← (statements lines).mapM Line.encoding
  return (codes, symbols)

def Program.codes (program : Program) : List Int := program.words.map fun word => (word.toNat : Int)

theorem Line.encoding_eq (line : Line) :
    line.encoding = line.word.map fun word => (word.toNat : Int) := by
  unfold encoding word statementWord
  cases instruction line.code with
  | error failure => rfl
  | ok found => exact congrArg Except.ok found.toNat_word_eq_encoding.symm

theorem mapM_encoding (lines : List Line) :
    lines.mapM Line.encoding =
      (lines.mapM Line.word).map (List.map fun word => (word.toNat : Int)) := by
  induction lines with
  | nil => rfl
  | cons line lines ih =>
    rw [List.mapM_cons, List.mapM_cons, ih, line.encoding_eq]
    cases line.word with
    | error failure => rfl
    | ok word => cases lines.mapM Line.word <;> rfl

/-- The words of a program are its codes, none of which had to be cut. -/
theorem encodings_eq (text : List Char) :
    encodings text = (assemble text).map fun program => (program.codes, program.symbols) := by
  unfold encodings assemble
  cases resolveText text with
  | error failure => rfl
  | ok resolved =>
    obtain ⟨lines, symbols⟩ := resolved
    change ((statements lines).mapM Line.encoding >>= _) = Except.map _ ((statements lines).mapM Line.word >>= _)
    rw [mapM_encoding]
    cases (statements lines).mapM Line.word <;> rfl

theorem encodings_bounds {text : List Char} {codes : List Int} {symbols : Symbols}
    (assembled : encodings text = .ok (codes, symbols)) : ∀ code ∈ codes, 0 ≤ code ∧ code ≤ 65535 := by
  obtain ⟨⟨lines, _⟩, _, worked⟩ := bind_eq_ok_iff.mp assembled
  obtain ⟨_, encoded, same⟩ := bind_eq_ok_iff.mp worked
  obtain ⟨rfl, _⟩ := Prod.mk.inj (Except.ok.inj same)
  intro code member
  obtain ⟨line, _, own⟩ := exists_of_mem_forall₂ (mapM_eq_ok_iff.mp encoded).flip member
  unfold Line.encoding at own
  split at own
  · next found _ =>
    obtain rfl := Except.ok.inj own
    exact found.encoding_bounds
  · cases own

end Assembly

namespace File

def loadingImage (file : File) : Attempt Rom Failure Unit := do
  let bytes ← Attempt.check file.bytes
  let words ← Attempt.check ((Image.decode bytes).mapError fun cause => .load (.image cause))
  (Rom.taking (words.map fun word => (word.toNat : Int))).adapt fun cause => .load (.image cause)

def loadingAssembly (file : File) : Attempt Rom Failure Symbols := do
  let text ← Attempt.check file.text
  let (codes, symbols) ← Attempt.check ((Assembly.encodings text).mapError fun cause => .load (.assembly cause))
  (Rom.taking codes).adapt fun cause => .load (.image cause)
  return symbols

theorem loadingImage_eq (file : File) :
    file.loadingImage = .allOrNothing fun rom => (file.image rom).map fun loaded => ((), loaded) := by
  rw [loadingImage]
  simp only [Rom.taking_eq, Attempt.adapt_allOrNothing, Attempt.check_bind_allOrNothing, Rom.load_codes]
  congr 1
  funext rom
  unfold image Rom.loadImage
  simp only [bind, Except.bind]
  cases file.bytes with
  | error failure => rfl
  | ok bytes =>
    dsimp only
    cases Image.decode bytes with
    | error failure => rfl
    | ok words =>
      dsimp only [Except.mapError]
      cases rom.loadWords words <;> rfl

theorem loadingAssembly_eq (file : File) :
    file.loadingAssembly = .allOrNothing fun rom => file.assembly rom := by
  rw [loadingAssembly]
  simp only [Rom.taking_eq, Attempt.adapt_allOrNothing, Attempt.allOrNothing_bind_pure,
    Attempt.check_bind_allOrNothing, Assembly.encodings_eq]
  congr 1
  funext rom
  unfold assembly Rom.loadText
  simp only [bind, Except.bind]
  cases file.text with
  | error failure => rfl
  | ok text =>
    dsimp only
    cases Assembly.assemble text with
    | error failure => rfl
    | ok program =>
      dsimp only [Except.mapError, Except.map]
      rw [Assembly.Program.codes, Rom.load_codes]
      cases rom.loadWords program.words <;> rfl

end File

namespace Session

inductive Refusal where
  | load (failure : LoadFailure)
  | device (failure : DeviceError)

def withRom (session : Session) (rom : Rom) : Session :=
  session.withMachine { session.machine with bus := { session.machine.bus with rom } }

def withRam (session : Session) (ram : Ram) : Session :=
  session.withMachine { session.machine with bus := { session.machine.bus with ram } }

def taking (codes : List Int) : Attempt Session Refusal Unit :=
  (Attempt.within (fun session => session.machine.bus.rom) withRom (Rom.taking codes)).adapt
    fun cause => .load (.image cause)

def filling (value : Int) : Attempt Session Refusal Unit := do
  let session ← get
  let ram ← Attempt.check ((session.machine.bus.ram.fill value).mapError .device)
  set (session.withRam ram)

/-- What follows once the program memory has its content: the labels of the session and of its
processor, a reset, cleared data and an empty history. -/
def restarting (symbols : Symbols) (hard : Bool) : Attempt Session Refusal Unit := do
  modify fun session => { session with symbols }
  modify fun session => session.withMachine (session.machine.setSymbols symbols)
  modify fun session => session.withMachine (session.machine.reset hard)
  filling 0
  modify fun session => session.withDebugger session.debugger.clearHistory

def starting (codes : List Int) (symbols : Symbols) (hard : Bool) : Attempt Session Refusal Unit := do
  taking codes
  restarting symbols hard

def compiling (text : List Char) : Attempt Session Refusal (List Int × Symbols) := do
  let (codes, symbols) ← Attempt.check ((Assembly.encodings text).mapError fun cause => .load (.assembly cause))
  starting codes symbols false
  return (codes, symbols)

def loadingImage (bytes : List Byte) : Attempt Session Refusal Unit := do
  let words ← Attempt.check ((Image.decode bytes).mapError fun cause => .load (.image cause))
  starting (words.map fun word => (word.toNat : Int)) [] true

def restarted (symbols : Symbols) (hard : Bool) (session : Session) : Session :=
  let machine := (session.machine.setSymbols symbols).reset hard
  ({ session with symbols }).restart (clearRam machine)

/-- Zero is a byte, so nothing that follows on the program memory can fail. -/
theorem restarting_eq (symbols : Symbols) (hard : Bool) :
    restarting symbols hard = modify (restarted symbols hard) := by
  funext session
  rfl

theorem starting_eq (codes : List Int) (symbols : Symbols) (hard : Bool) :
    starting codes symbols hard = .allOrNothing fun session =>
      ((session.machine.bus.rom.load codes).mapError fun cause => Refusal.load (.image cause)).map
        fun rom => ((), restarted symbols hard (session.withRom rom)) := by
  rw [starting, taking, Rom.taking_eq, Attempt.within_allOrNothing fun _ => rfl,
    Attempt.adapt_allOrNothing, restarting_eq]
  refine (Attempt.allOrNothing_bind_modify _ fun _ => restarted symbols hard).trans ?_
  congr 1
  funext session
  cases session.machine.bus.rom.load codes <;> rfl

theorem compiling_eq (text : List Char) :
    compiling text = .allOrNothing fun session =>
      ((session.compile text).mapError .load).map
        fun (program, next) => ((program.codes, program.symbols), next) := by
  rw [compiling]
  simp only [starting_eq, Attempt.allOrNothing_bind_pure, Attempt.check_bind_allOrNothing,
    Assembly.encodings_eq]
  congr 1
  funext session
  unfold compile Rom.loadText
  simp only [bind, Except.bind]
  cases Assembly.assemble text with
  | error failure => rfl
  | ok program =>
    dsimp only [Except.mapError, Except.map]
    rw [Assembly.Program.codes, Rom.load_codes]
    cases session.machine.bus.rom.loadWords program.words <;> rfl

theorem loadingImage_eq (bytes : List Byte) :
    loadingImage bytes = .allOrNothing fun session =>
      ((session.loadImage bytes).mapError .load).map fun next => ((), next) := by
  rw [loadingImage]
  simp only [starting_eq, Attempt.check_bind_allOrNothing, Rom.load_codes]
  congr 1
  funext session
  unfold loadImage Rom.loadImage
  simp only [bind, Except.bind]
  cases Image.decode bytes with
  | error failure => rfl
  | ok words =>
    dsimp only [Except.mapError]
    cases session.machine.bus.rom.loadWords words <;> rfl

/-- With a program memory of a size, loading a program is all or nothing, and fails on what
cannot be read and on what does not fit. -/
structure LoadsWhole (size : Int) (session : Session) : Prop where
  compile : ∀ text, compiling text session =
    match session.compile text with
    | .ok (program, next) => (.ok (program.codes, program.symbols), next)
    | .error failure => (.error (.load failure), session)
  compiled : ∀ text, session.perform (.compile text) = (compiling text session).2
  image : ∀ bytes, loadingImage bytes session =
    match session.loadImage bytes with
    | .ok next => (.ok (), next)
    | .error failure => (.error (.load failure), session)
  imaged : ∀ bytes, session.perform (.loadImage bytes) = (loadingImage bytes session).2
  unassembled : ∀ text failure, Assembly.assemble text = .error failure →
    session.compile text = .error (.assembly failure)
  assembled : ∀ text program, Assembly.assemble text = .ok program →
    ((∃ failure, session.compile text = .error failure) ↔ size < program.words.length)
  unread : ∀ bytes, (∃ failure, session.loadImage bytes = .error failure) ↔
    bytes.length % 2 = 1 ∨ 2 * size < bytes.length

theorem compile_eq_error_iff {session : Session} {text : List Char} {program : Assembly.Program}
    (assembled : Assembly.assemble text = .ok program) :
    (∃ failure, session.compile text = .error failure) ↔
      session.machine.bus.rom.size < program.words.length := by
  unfold compile Rom.loadText Rom.loadWords
  rw [assembled]
  dsimp only [bind, Except.bind, Except.mapError]
  by_cases long : session.machine.bus.rom.size < program.words.length
  · simp only [if_pos long]
    exact iff_of_true ⟨_, rfl⟩ long
  · simp only [if_neg long]
    refine iff_of_false ?_ long
    rintro ⟨_, failed⟩
    cases failed

theorem loadImage_eq_error_iff {session : Session} {bytes : List Byte} :
    (∃ failure, session.loadImage bytes = .error failure) ↔
      bytes.length % 2 = 1 ∨ 2 * session.machine.bus.rom.size < bytes.length := by
  unfold loadImage Rom.loadImage Image.decode Rom.loadWords
  cases decoded : Image.words? bytes with
  | none => exact iff_of_true ⟨_, rfl⟩ (.inl (Image.words?_eq_none_iff.mp decoded))
  | some words =>
    have double := Image.length_of_words? decoded
    -- A word takes two bytes, so the number of bytes tells whether the words fit.
    dsimp only [bind, Except.bind, Except.mapError]
    by_cases long : session.machine.bus.rom.size < words.length
    · simp only [if_pos long]
      exact iff_of_true ⟨_, rfl⟩ (.inr (by omega))
    · simp only [if_neg long]
      refine iff_of_false ?_ (by omega)
      rintro ⟨_, failed⟩
      cases failed

theorem loadsWhole (session : Session) : session.LoadsWhole session.machine.bus.rom.size := by
  have compile (text : List Char) : compiling text session =
      match session.compile text with
      | .ok (program, next) => (.ok (program.codes, program.symbols), next)
      | .error failure => (.error (.load failure), session) := by
    rw [compiling_eq]
    dsimp only [Attempt.allOrNothing]
    cases session.compile text <;> rfl
  have image (bytes : List Byte) : loadingImage bytes session =
      match session.loadImage bytes with
      | .ok next => (.ok (), next)
      | .error failure => (.error (.load failure), session) := by
    rw [loadingImage_eq]
    dsimp only [Attempt.allOrNothing]
    cases session.loadImage bytes <;> rfl
  refine ⟨compile, fun text => ?_, image, fun bytes => ?_, fun text failure failed => ?_,
    fun text program assembled => ?_, fun bytes => ?_⟩
  · rw [compile, perform]
    cases session.compile text <;> rfl
  · rw [image, perform]
    cases session.loadImage bytes <;> rfl
  · rw [Session.compile, Rom.loadText, failed]
    rfl
  · rw [compile_eq_error_iff assembled]
    omega
  · rw [loadImage_eq_error_iff]
    omega

end Session

structure File.LoadsWhole (file : File) (rom : Rom) : Prop where
  image : file.loadingImage rom =
    match file.image rom with
    | .ok loaded => (.ok (), loaded)
    | .error failure => (.error failure, rom)
  assembly : file.loadingAssembly rom =
    match file.assembly rom with
    | .ok (symbols, loaded) => (.ok symbols, loaded)
    | .error failure => (.error failure, rom)

theorem File.loadsWhole (file : File) (rom : Rom) : file.LoadsWhole rom := by
  refine ⟨?_, ?_⟩
  · rw [loadingImage_eq]
    dsimp only [Attempt.allOrNothing]
    cases file.image rom <;> rfl
  · rw [loadingAssembly_eq]
    dsimp only [Attempt.allOrNothing]
    cases file.assembly rom <;> rfl

/-- The codes of a text are its words, and within their range before any of them is checked. -/
structure Assembly.Coded (text : List Char) : Prop where
  codes : encodings text = (assemble text).map fun program => (program.codes, program.symbols)
  bounds : ∀ codes symbols, encodings text = .ok (codes, symbols) → ∀ code ∈ codes, 0 ≤ code ∧ code ≤ 65535

/-- Whatever was done to a session that settings describe, a program that fails to load leaves
it as it was, and a text that assembles fails to load exactly if it has more words than the
settings give to the program memory. -/
theorem Session.reachable_loadsWhole [Host] {settings : Settings} {session : Session}
    (created : create settings = .ok session) (actions : List Action) :
    (actions.foldl perform session).LoadsWhole settings.romSize ∧
      (∀ (file : File) (rom : Rom), file.LoadsWhole rom) ∧ ∀ text, Assembly.Coded text := by
  have sized := (fits_foldl (fits_create created) actions).machine.rom
  refine ⟨?_, File.loadsWhole, fun text => ⟨Assembly.encodings_eq text, fun _ _ => Assembly.encodings_bounds⟩⟩
  rw [← sized]
  exact loadsWhole _

theorem Session.reachable_loadsWhole_tiny :
    @create Settings.scantHost tiny = .ok tinySession ∧
      Assembly.assemble "hlt\nhlt".toList = .ok ⟨[0, 0], []⟩ ∧
      (tinyActions.foldl perform tinySession).perform (.compile "hlt\nhlt".toList) =
        tinyActions.foldl perform tinySession := by
  have created : @create Settings.scantHost tiny = .ok tinySession := by rfl
  have assembled : Assembly.assemble "hlt\nhlt".toList = .ok ⟨[0, 0], []⟩ := by decide +kernel
  obtain ⟨loads, _⟩ := @reachable_loadsWhole Settings.scantHost _ _ created tinyActions
  refine ⟨created, assembled, ?_⟩
  obtain ⟨failure, failed⟩ := (loads.assembled _ _ assembled).mpr (by decide)
  rw [loads.compiled, loads.compile, failed]

end HarvardBench
