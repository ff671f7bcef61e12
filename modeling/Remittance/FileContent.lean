import Remittance.Text.Utf8
/-!
# What files hold

Why a file cannot be read or created (`FileFault`), and what an opened file gives: its bytes, or the
bytes in front of a fault (`FileContent`).
-/

namespace Remittance

/-- Why a file cannot be read or created. -/
inductive FileFault where
  /-- A line is no text. -/
  | notText
  /-- A line is no text, for this reason. -/
  | undecodable (fault : Text.Utf8.Fault)
  /-- The path leads to a directory. -/
  | isDirectory
  /-- The path leads through a directory that does not exist. -/
  | noSuchDirectory
  /-- The path leads through a file. -/
  | notDirectory
  /-- Something else, in these words. -/
  | other (message : String)
deriving DecidableEq

/-- The wording of bytes that are no text. -/
def Text.Utf8.Fault.message : Text.Utf8.Fault → String
  | ⟨index, some count⟩ => s!"invalid utf-8 sequence of {count} bytes from index {index}"
  | ⟨index, none⟩ => s!"incomplete utf-8 byte sequence from index {index}"

/-- The wording of a fault. -/
def FileFault.message : FileFault → String
  | .notText => "stream did not contain valid UTF-8"
  | .undecodable fault => fault.message
  | .isDirectory => "Is a directory (os error 21)"
  | .noSuchDirectory => "No such file or directory (os error 2)"
  | .notDirectory => "Not a directory (os error 20)"
  | .other message => message

/-- What an opened file gives. -/
structure FileContent where
  bytes : List UInt8
  /-- Why nothing can be read behind the bytes, where they do not end with the file. -/
  fault : Option FileFault

end Remittance
