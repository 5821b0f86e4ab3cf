import Clausal.FileSystem

/-!
# Writers

A writer takes bytes, or says why it cannot; what it has taken before stays with it.  An open
file is a writer, and only a full device refuses bytes.  Before a writer there may be a buffer,
which collects small pieces and hands them on together.
-/

namespace Clausal

inductive WriteFailure where
  | deviceFull
  deriving DecidableEq, Repr

def WriteFailure.message : WriteFailure → String
  | deviceFull => "No space left on device (os error 28)"

/-- An open file among the files of a system. -/
structure FileWriter where
  files : FileSystem
  handle : FileHandle

namespace FileWriter

def isFull (writer : FileWriter) : Bool :=
  (writer.files.body writer.handle.id).device? == some .full

/-- Writes bytes where the last write ended; the system is not asked to write none. -/
def put (writer : FileWriter) (bytes : List UInt8) : FileWriter × Except WriteFailure Unit :=
  if bytes.isEmpty then (writer, .ok ())
  else if writer.isFull then (writer, .error .deviceFull)
  else
    match writer with
    | ⟨files, id, offset⟩ =>
        let bytes := bytes.toArray
        (⟨files.writeAt id offset bytes, id, offset + bytes.size⟩, .ok ())

end FileWriter

/-- A writer with the bytes that it has not been handed yet. -/
structure BufferedWriter (σ : Type) where
  inner : σ
  buffer : Array UInt8

namespace BufferedWriter

variable {σ ε : Type}

def capacity : Nat := 8192

def ofWriter (inner : σ) : BufferedWriter σ := ⟨inner, #[]⟩

def spare (writer : BufferedWriter σ) : Nat := capacity - writer.buffer.size

def hold (writer : BufferedWriter σ) (bytes : List UInt8) : BufferedWriter σ :=
  match writer with
  | ⟨inner, buffer⟩ => ⟨inner, buffer.append bytes.toArray⟩

variable (put : σ → List UInt8 → σ × Except ε Unit)

/-- Hands on what was held back, and keeps it if it is refused. -/
def flush (writer : BufferedWriter σ) : BufferedWriter σ × Except ε Unit :=
  match put writer.inner writer.buffer.toList with
  | (inner, .ok ()) => (⟨inner, #[]⟩, .ok ())
  | (inner, .error failure) => (⟨inner, writer.buffer⟩, .error failure)

/-- Holds bytes back if they fit beside the others.  Otherwise the others go first, and what the
buffer cannot hold by itself goes after them at once. -/
def write (writer : BufferedWriter σ) (bytes : List UInt8) :
    BufferedWriter σ × Except ε Unit :=
  if bytes.length < writer.spare then (writer.hold bytes, .ok ())
  else
    match if writer.spare < bytes.length then writer.flush put else (writer, .ok ()) with
    | (writer, .error failure) => (writer, .error failure)
    | (writer, .ok ()) =>
        if bytes.length < capacity then (writer.hold bytes, .ok ())
        else
          match put writer.inner bytes with
          | (inner, outcome) => (⟨inner, writer.buffer⟩, outcome)

end BufferedWriter

namespace Writer

variable {σ ε : Type}

/-- Hands pieces of text to a writer, up to the first that it refuses. -/
def putPieces (put : σ → List UInt8 → σ × Except ε Unit) (writer : σ) :
    List String → σ × Except ε Unit
  | [] => (writer, .ok ())
  | piece :: rest =>
      match put writer (Text.encode piece) with
      | (writer, .ok ()) => putPieces put writer rest
      | (writer, .error failure) => (writer, .error failure)

def putLines (put : σ → List UInt8 → σ × Except ε Unit) (writer : σ) (lines : List String) :
    σ × Except ε Unit :=
  putPieces put writer (lines.flatMap fun line => [line, "\n"])

end Writer

end Clausal
