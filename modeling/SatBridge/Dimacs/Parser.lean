import SatBridge.Formula.ClauseStream
import SatBridge.Formula.Basic
import SatBridge.Dimacs.Line
import SatBridge.Stream.Source
import SatBridge.Text.Decimal

/-!
# Reading DIMACS text

A problem line `p cnf <vars> <clauses>` declares the formula, and lines of literals give its
clauses, each ended by a zero and free to run over several lines. Reading goes line by line and
keeps the header and the clause stream; a fault, or a line that starts with `%`, decides the
answer at once, whatever follows.
-/

set_option autoImplicit false

namespace SatBridge.Dimacs

structure Header where
  numVars : Nat
  numClauses : Nat
  deriving DecidableEq, Repr

structure Progress where
  /-- The number of lines read. -/
  lines : Nat
  header : Option Header
  stream : ClauseStream
  deriving DecidableEq, Repr

def Progress.start : Progress := ⟨0, none, .empty⟩

/-- Reading either goes on or has its answer. -/
inductive Reading where
  | more (progress : Progress)
  | answer (result : Except Error Formula)

/-- One past the largest clause count that a header may declare. -/
def clauseCountLimit : Nat := 18446744073709551616

def Header.ofWords? : List (List Char) → Except Fault Header
  | ['p'] :: ['c', 'n', 'f'] :: rest => do
    let (numVars, rest) ← readCount? (maxVar + 1) .badVariableCount rest
    let (numClauses, rest) ← readCount? clauseCountLimit .badClauseCount rest
    if rest.isEmpty then return ⟨numVars, numClauses⟩ else throw .trailingHeaderTokens
  | _ => throw .malformedHeader
where
  /-- The count that the next word writes, which has to be below `limit`, and the words after it. -/
  readCount? (limit : Nat) (fault : Fault) :
      List (List Char) → Except Fault (Nat × List (List Char))
    | [] => throw fault
    | word :: rest =>
      match Text.Decimal.unsigned? word with
      | some count => if count < limit then return (count, rest) else throw fault
      | none => throw fault

/-- One word of a line of literals: zero closes the open clause, and a literal joins it if the
header declares its variable. -/
def readToken (numVars : Nat) (stream : ClauseStream) (token : List Char) :
    Except Fault ClauseStream :=
  match Text.Decimal.signed? token with
  | none => throw (.badLiteral (String.ofList token))
  | some value =>
    if value = 0 then return stream.close
    else
      match Literal.ofInt? value with
      | .error _ => throw (.badLiteral (String.ofList token))
      | .ok l =>
        if l.index ≤ numVars then return stream.push l
        else throw (.variableTooLarge l.index numVars)

/-- The words of a line of literals, from left to right, up to the first fault. -/
def readTokens (numVars : Nat) (stream : ClauseStream) (tokens : List (List Char)) :
    Except Fault ClauseStream :=
  tokens.foldlM (readToken numVars) stream

/-- The refusal of a text for a fault of one of its lines. -/
def refuse (line : Nat) (fault : Fault) : Except Error Formula :=
  .error (.dimacs line fault)

namespace Progress

/-- The answer once no line is left to read. -/
def finish (p : Progress) : Except Error Formula :=
  match p.header with
  | none => refuse p.lines .missingHeader
  | some header =>
    if p.stream.isOpen then refuse p.lines .unterminatedClause
    else if p.stream.closed.length = header.numClauses then
      .ok ⟨header.numVars, p.stream.clauses⟩
    else refuse p.lines (.clauseCountMismatch header.numClauses p.stream.closed.length)

/-- What a classified line does to the progress, which already counts it. -/
def apply : Progress → Line → Reading
  | p, .skipped => .more p
  | p, .endMark => .answer p.finish
  | ⟨lines, some _, _⟩, .header _ => .answer (refuse lines .duplicateHeader)
  | ⟨lines, none, stream⟩, .header words =>
    match Header.ofWords? words with
    | .ok header => .more ⟨lines, some header, stream⟩
    | .error fault => .answer (refuse lines fault)
  | ⟨lines, none, _⟩, .literals _ => .answer (refuse lines .literalsBeforeHeader)
  | ⟨lines, some header, stream⟩, .literals words =>
    match readTokens header.numVars stream words with
    | .ok stream => .more ⟨lines, some header, stream⟩
    | .error fault => .answer (refuse lines fault)

/-- Reads one line. A line that is not UTF-8 is refused before it is looked at. -/
def readLine (p : Progress) (bytes : List UInt8) : Reading :=
  match decodeLine? bytes with
  | none => .answer (.error (.stream .notUtf8))
  | some cs => { p with lines := p.lines + 1 }.apply (Line.ofChars cs)

/-- Reads lines until one of them decides the answer. -/
def readLines (p : Progress) : List (List UInt8) → Reading
  | [] => .more p
  | line :: rest =>
    match p.readLine line with
    | .more p => p.readLines rest
    | .answer result => .answer result

/-- Reads what follows the last newline, which is a line only if it holds a byte. -/
def readLast (p : Progress) (bytes : List UInt8) : Except Error Formula :=
  match p.readLines (if bytes.isEmpty then [] else [bytes]) with
  | .more p => p.finish
  | .answer result => result

/-- Reads the pieces of a source; `pending` are the bytes since the last newline. -/
def readPieces (p : Progress) (pending : List UInt8) (failure : Option StreamFault) :
    List (List UInt8) → Except Error Formula
  | [] =>
    match failure with
    | some fault => .error (.stream fault)
    | none => p.readLast pending
  | piece :: rest =>
    let (lines, pending) := cutLines (pending ++ piece)
    match p.readLines lines with
    | .more p => p.readPieces pending failure rest
    | .answer result => result

end Progress

/-- The formula that the bytes of a source denote. -/
def parse (source : Source) : Except Error Formula :=
  Progress.start.readPieces [] source.failure source.pieces

def parseText (text : String) : Except Error Formula :=
  parse (.ofBytes text.toUTF8.data.toList)

end SatBridge.Dimacs
