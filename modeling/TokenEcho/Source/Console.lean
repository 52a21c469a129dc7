import TokenEcho.IoError
import TokenEcho.Text.Utf8

/-!
# Typed sources

A source that is typed ends at the first empty line. Each line before it is kept with a single line
feed, whether it ended in one, in a carriage return and a line feed, or with the input.
-/

namespace TokenEcho.Console

def lineFeed : UInt8 := 10

/-- The first line of an input with the byte that ends it, and the bytes after it. -/
def splitLine (input : List UInt8) : List UInt8 × List UInt8 :=
  match input.dropWhile (· != lineFeed) with
  | [] => (input, [])
  | ending :: rest => (input.takeWhile (· != lineFeed) ++ [ending], rest)

def stripLast (last : Char) (text : List Char) : List Char :=
  if text.getLast? = some last then text.dropLast else text

/-- A line without its line feed, and then without a carriage return before it. -/
def lineContent (line : String) : List Char := stripLast '\r' (stripLast '\n' line.toList)

theorem splitLine_snd_length_lt {input : List UInt8} (h : input ≠ []) :
    (splitLine input).2.length < input.length := by
  unfold splitLine
  have hle := (List.dropWhile_suffix (fun b => b != lineFeed) (l := input)).length_le
  split
  · exact List.length_pos_iff.2 h
  · next heq =>
      rw [heq] at hle
      exact hle

/-- Reads lines up to the first empty one, behind the text that has been kept, and leaves the bytes
after it unread. A line is decoded as a whole, and only when it is reached. -/
def readLines (input : List UInt8) (kept : String) : Except IoError String × List UInt8 :=
  if h : input = [] then (.ok kept, [])
  else
    have := splitLine_snd_length_lt h
    match Text.decode? (splitLine input).1 with
    | none => (.error .notUtf8, (splitLine input).2)
    | some line =>
        match lineContent line with
        | [] => (.ok kept, (splitLine input).2)
        | content => readLines (splitLine input).2 (kept ++ String.ofList content ++ "\n")
termination_by input.length

def readTyped (input : List UInt8) : Except IoError String × List UInt8 := readLines input ""

end TokenEcho.Console
