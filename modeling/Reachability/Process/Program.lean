/-
# Programs

What the usual programs write when they are run with arguments and an input.

Main definitions:

* `Program.Finished` : what a run comes to;
* `Program.find?` : the program of a name.
-/
import Reachability.Number.Decimal
import Reachability.Text.Blank
import Reachability.Text.Split
import Reachability.Text.Utf8
import Reachability.Time.Duration

namespace Reachability

/-- What a run of a program leaves. -/
structure Program.Finished where
  stdout : List UInt8 := []
  stderr : List UInt8 := []
  status : Nat := 0
  /-- How long it takes, in nanoseconds. -/
  time : Nat := 0
deriving DecidableEq, Repr

namespace Program

/-- The bytes of a text. -/
def bytes (s : String) : List UInt8 := Utf8.encode s.toList

/-- A run that ends well. -/
def writes (out : List UInt8) : Finished := { stdout := out }

/-- A run that only complains. -/
def complains (message : String) (status : Nat) : Finished :=
  { stderr := bytes (message ++ "\n"), status }

/-! ## Escapes -/

/-- The byte that a letter behind a backslash stands for. -/
def escaped? : Char → Option UInt8
  | 'a' => some 7
  | 'b' => some 8
  | 'f' => some 12
  | 'n' => some 10
  | 'r' => some 13
  | 't' => some 9
  | 'v' => some 11
  | '\\' => some 92
  | _ => none

/-- Whether a character is an octal digit. -/
def isOctal (c : Char) : Bool := '0' ≤ c && c ≤ '7'

/-- The byte of octal digits. -/
def octalByte (digits : List Char) : UInt8 :=
  UInt8.ofNat (digits.foldl (fun n c => 8 * n + (c.toNat - 48)) 0)

/-- The byte of a backslash with what follows it, and the rest; `none` instead of the byte ends
the output.  With `zeroFirst` a number may have a further zero in front. -/
def escape (zeroFirst : Bool) (cs : List Char) : Option (List UInt8) × List Char :=
  match cs with
  | 'c' :: rest => if zeroFirst then (none, rest) else (some (bytes "\\c"), rest)
  | c :: rest =>
      match escaped? c with
      | some b => (some [b], rest)
      | none =>
          if zeroFirst && c = '0' then
            let digits := (rest.take 3).takeWhile isOctal
            (some [octalByte digits], rest.drop digits.length)
          else if isOctal c then
            let digits := (cs.take 3).takeWhile isOctal
            (some [octalByte digits], cs.drop digits.length)
          else (some (bytes (String.ofList ['\\', c])), rest)
  | [] => (some (bytes "\\"), [])

/-- A text with its escapes replaced, and whether the output goes on behind it. -/
def unescape (zeroFirst : Bool) : Nat → List Char → List UInt8 × Bool
  | 0, _ => ([], true)
  | _ + 1, [] => ([], true)
  | fuel + 1, '\\' :: cs =>
      match escape zeroFirst cs with
      | (none, _) => ([], false)
      | (some out, rest) =>
          let (more, goesOn) := unescape zeroFirst fuel rest
          (out ++ more, goesOn)
  | fuel + 1, c :: cs =>
      let (more, goesOn) := unescape zeroFirst fuel cs
      (Utf8.encodeChar c ++ more, goesOn)

/-- A text with the escapes of `echo` replaced. -/
def unescaped (s : String) : List UInt8 × Bool := unescape true (s.length + 1) s.toList

/-! ## Echo -/

/-- Writes the arguments with blanks between them and, unless the first one forbids it, a line
feed behind them. -/
def echo (args : List String) : Finished :=
  match args with
  | "-n" :: args => writes (bytes (" ".intercalate args))
  | args => writes (bytes (" ".intercalate args ++ "\n"))

/-- The same with escapes in the arguments. -/
def echoEscaped (args : List String) : Finished :=
  let (args, last) : List String × List UInt8 := match args with
    | "-n" :: args => (args, [])
    | args => (args, [10])
  let (out, goesOn) := unescaped (" ".intercalate args)
  writes (if goesOn then out ++ last else out)

/-! ## Formats -/

/-- A conversion of a format: its flags, its width and its precision. -/
structure Conversion where
  leftward : Bool := false
  zeros : Bool := false
  plus : Bool := false
  width : Nat := 0
  precision : Option Nat := none
  letter : Char

/-- The conversion behind a percent sign, and what follows it. -/
def Conversion.read? (cs : List Char) : Option (Conversion × List Char) :=
  let flags := cs.takeWhile fun c => "-0+ #".toList.contains c
  let cs := cs.drop flags.length
  let width := cs.takeWhile Char.isDigit
  let cs := cs.drop width.length
  let (precision, cs) : Option Nat × List Char := match cs with
    | '.' :: rest =>
        let digits := rest.takeWhile Char.isDigit
        (some (Decimal.value digits), rest.drop digits.length)
    | _ => (none, cs)
  match cs with
  | letter :: rest => some
      ({ leftward := flags.contains '-', zeros := flags.contains '0', plus := flags.contains '+'
         width := Decimal.value width, precision, letter }, rest)
  | [] => none

/-- Pads a text to the width of a conversion. -/
def Conversion.pad (c : Conversion) (text : List UInt8) : List UInt8 :=
  let missing := c.width - text.length
  if c.leftward then text ++ List.replicate missing 32 else List.replicate missing 32 ++ text

/-- The digits of a number in a base. -/
def digitsIn (base n : Nat) : List Char := Nat.toDigits base n

/-- An integer in the form of a conversion. -/
def Conversion.integer (c : Conversion) (i : Int) : List UInt8 :=
  let digits := match c.letter with
    | 'o' => digitsIn 8 i.natAbs
    | 'x' => digitsIn 16 i.natAbs
    | 'X' => (digitsIn 16 i.natAbs).map Char.toUpper
    | _ => digitsIn 10 i.natAbs
  let digits := List.replicate (c.precision.getD 1 - digits.length) '0' ++ digits
  let sign := if i < 0 then ['-'] else if c.plus then ['+'] else []
  let fill := if c.zeros && !c.leftward && c.precision.isNone then
    List.replicate (c.width - digits.length - sign.length) '0' else []
  c.pad (Utf8.encode (sign ++ fill ++ digits))

/-- The integer that an argument is; a quote in front asks for the code of a character. -/
def integerArgument (s : String) : Option Int :=
  match s.toList with
  | [] => some 0
  | '\'' :: c :: _ => some c.toNat
  | '"' :: c :: _ => some c.toNat
  | '-' :: cs => if !cs.isEmpty && cs.all Char.isDigit then some (-Decimal.value cs) else none
  | cs => if cs.all Char.isDigit then some (Decimal.value cs) else none

/-- What a pass through a format leaves: the output, what is left of the arguments, and whether
it goes on. -/
structure Formatted where
  out : List UInt8
  args : List String
  goesOn : Bool := true
  /-- The arguments that should have been numbers. -/
  problems : List String := []

/-- Writes an argument in the form of a conversion; one that is no number counts as zero. -/
def Conversion.apply (c : Conversion) (args : List String) : Formatted :=
  let arg := args.headD ""
  let rest := args.drop 1
  let shortened (out : List UInt8) : List UInt8 := c.precision.elim out out.take
  match c.letter with
  | 's' => ⟨c.pad (shortened (bytes arg)), rest, true, []⟩
  | 'b' =>
      let (out, goesOn) := unescaped arg
      ⟨c.pad (shortened out), rest, goesOn, []⟩
  | 'c' => ⟨c.pad ((bytes arg).take 1), rest, true, []⟩
  | _ => match integerArgument arg with
      | some i => ⟨c.integer i, rest, true, []⟩
      | none => ⟨c.integer 0, rest, true, [arg]⟩

/-- Goes through a format once. -/
def pass : Nat → List Char → List String → Formatted
  | 0, _, args => ⟨[], args, true, []⟩
  | _ + 1, [], args => ⟨[], args, true, []⟩
  | fuel + 1, '%' :: '%' :: cs, args =>
      let r := pass fuel cs args
      { r with out := 37 :: r.out }
  | fuel + 1, '%' :: cs, args =>
      match Conversion.read? cs with
      | none => ⟨[], args, false, []⟩
      | some (c, cs) =>
          let done := c.apply args
          if !done.goesOn then done
          else
            let r := pass fuel cs done.args
            { r with out := done.out ++ r.out, problems := done.problems ++ r.problems }
  | fuel + 1, '\\' :: cs, args =>
      match escape false cs with
      | (none, _) => ⟨[], args, false, []⟩
      | (some out, cs) =>
          let r := pass fuel cs args
          { r with out := out ++ r.out }
  | fuel + 1, c :: cs, args =>
      let r := pass fuel cs args
      { r with out := Utf8.encodeChar c ++ r.out }

/-- Goes through a format until the arguments are used up. -/
def passes (format : List Char) : Nat → List String → List UInt8 × List String
  | 0, _ => ([], [])
  | fuel + 1, args =>
      let r := pass (format.length + 1) format args
      if r.goesOn && !r.args.isEmpty && r.args.length < args.length then
        let (out, problems) := passes format fuel r.args
        (r.out ++ out, r.problems ++ problems)
      else (r.out, r.problems)

/-- Writes the arguments in the form of the first one, under the name that complaints start
with. -/
def printf (label : String) (args : List String) : Finished :=
  let run (format : String) (args : List String) : Finished :=
    let (out, problems) := passes format.toList (args.length + 1) args
    { stdout := out
      stderr := bytes (String.join (problems.map fun arg =>
        label ++ ": " ++ arg ++ ": expected numeric value\n"))
      status := if problems.isEmpty then 0 else 1 }
  match args with
  | "--" :: format :: args => run format args
  | format :: args => run format args
  | [] => complains (label ++ ": usage: printf format [arg ...]") 2

/-! ## Filters -/

/-- The lines of some bytes, each with its line feed if it has one. -/
def linesOf (input : List UInt8) : List (List UInt8) :=
  go [] input
where
  /-- Reads on with the line so far, its last byte first. -/
  go : List UInt8 → List UInt8 → List (List UInt8)
    | line, [] => if line.isEmpty then [] else [line.reverse]
    | line, b :: bs => if b = 10 then (b :: line).reverse :: go [] bs else go (b :: line) bs

/-- What a head or a tail is counted in. -/
inductive Measure
  | lines
  | bytes
deriving DecidableEq, Repr

/-- How many pieces the arguments ask for, and what is left of the arguments. -/
def amount (args : List String) : Option (Measure × Nat × List String) :=
  let number (u : Measure) (text : List Char) (rest : List String) :
      Option (Measure × Nat × List String) :=
    if !text.isEmpty && text.all Char.isDigit then some (u, Decimal.value text, rest) else none
  match args with
  | "-n" :: n :: rest => number .lines n.toList rest
  | "-c" :: n :: rest => number .bytes n.toList rest
  | arg :: rest =>
      match arg.toList with
      | '-' :: 'n' :: text => number .lines text rest
      | '-' :: 'c' :: text => number .bytes text rest
      | '-' :: c :: text => if c.isDigit then number .lines (c :: text) rest else none
      | _ => some (.lines, 10, args)
  | [] => some (.lines, 10, [])

/-- What a program reads: its input, or the files that it is given; a dash stands for the
input.  Of the files there are two: one that is empty, and one of zeros without an end, of
which that many are read. -/
def sources (name : String) (zeros : Nat) (input : List UInt8) (paths : List String) : Finished :=
  if paths.isEmpty then writes input
  else paths.foldl (fun (r : Finished) path =>
    match path with
    | "-" => { r with stdout := r.stdout ++ input }
    | "/dev/null" => r
    | "/dev/zero" => { r with stdout := r.stdout ++ List.replicate zeros 0 }
    | _ =>
        { r with
          stderr := r.stderr ++ bytes (name ++ ": " ++ path ++ ": No such file or directory\n")
          status := 1 }) {}

/-- The first pieces of the input. -/
def head (args : List String) (input : List UInt8) : Finished :=
  match amount args with
  | none => complains "head: invalid option" 1
  | some (measure, n, paths) =>
      let r := sources "head" n input paths
      { r with stdout := match measure with
        | .lines => ((linesOf r.stdout).take n).flatten
        | .bytes => r.stdout.take n }

/-- The last pieces of the input. -/
def tail (args : List String) (input : List UInt8) : Finished :=
  match amount args with
  | none => complains "tail: invalid option" 1
  | some (measure, n, paths) =>
      let r := sources "tail" 0 input paths
      { r with stdout := match measure with
        | .lines => let lines := linesOf r.stdout; (lines.drop (lines.length - n)).flatten
        | .bytes => r.stdout.drop (r.stdout.length - n) }

/-- The number of lines or of bytes in the input. -/
def count (args : List String) (input : List UInt8) : Finished :=
  match args with
  | ["-l"] => writes (bytes (Decimal.ofNat (input.count 10) ++ "\n"))
  | ["-c"] => writes (bytes (Decimal.ofNat input.length ++ "\n"))
  | _ => complains "wc: invalid option" 1

/-- The bytes of a set, with ranges and escapes. -/
def byteSet (s : String) : List UInt8 :=
  ranges (unescape false (s.length + 1) s.toList).1
where
  /-- Fills in what two ends with a dash between them stand for. -/
  ranges : List UInt8 → List UInt8
    | a :: 45 :: b :: rest =>
        (List.range (b.toNat - a.toNat + 1)).map (fun i => a + UInt8.ofNat i) ++ ranges rest
    | a :: rest => a :: ranges rest
    | [] => []

/-- Replaces bytes by others, or drops them. -/
def transliterate (args : List String) (input : List UInt8) : Finished :=
  match args with
  | ["-d", set] => writes (input.filter fun b => !(byteSet set).contains b)
  | [before, after] =>
      let after := byteSet after
      let last := after.getLastD 0
      let before := byteSet before
      writes (input.map fun b => match before.idxOf? b with
        | some i => after.getD i last
        | none => b)
  | _ => complains "tr: missing operand" 1

/-- The integers from one to another in steps. -/
def sequence (args : List String) : Finished :=
  let run (first step last : Int) : Finished :=
    let steps := if step > 0 then ((last - first) / step + 1).toNat
      else if step < 0 then ((first - last) / (-step) + 1).toNat else 0
    writes ((List.range steps).flatMap fun (i : Nat) =>
      bytes (Decimal.ofInt (first + (i : Int) * step) ++ "\n"))
  match args.mapM integerArgument with
  | some [last] => run 1 1 last
  | some [first, last] => run first 1 last
  | some [first, step, last] => run first step last
  | _ => complains "seq: missing operand" 1

/-! ## Waiting -/

/-- The nanoseconds of a number of seconds, minutes, hours or days. -/
def pause? (arg : String) : Option Nat :=
  let (digits, unit) := match arg.toList.reverse with
    | 's' :: rest => (rest.reverse, 1)
    | 'm' :: rest => (rest.reverse, 60)
    | 'h' :: rest => (rest.reverse, 3600)
    | 'd' :: rest => (rest.reverse, 86400)
    | _ => (arg.toList, 1)
  let (whole, fraction) := (Text.cutFirst? '.' digits).getD (digits, [])
  if (whole ++ fraction).isEmpty || !(whole ++ fraction).all Char.isDigit then none
  else some (unit * nanosPerSecond * Decimal.value (whole ++ fraction) / Nat.pow 10 fraction.length)

/-- What is wrong with an argument that is an option, for none is known. -/
def strangeOption? (arg : String) : Option String :=
  match arg.toList with
  | '-' :: '-' :: _ :: _ => some ("sleep: unrecognized option '" ++ arg ++ "'")
  | '-' :: c :: _ => if c = '-' then none else
      some ("sleep: invalid option -- '" ++ String.singleton c ++ "'")
  | _ => none

/-- Waits for the sum of its arguments; each that is no length of time is complained about. -/
def sleep (args : List String) : Finished :=
  let refuses (complaints : List String) : Finished :=
    complains ("\n".intercalate (complaints ++ ["Try 'sleep --help' for more information."])) 1
  match args.findSome? strangeOption? with
  | some complaint => refuses [complaint]
  | none =>
      match args.erase "--" with
      | [] => refuses ["sleep: missing operand"]
      | args => match args.filter fun arg => (pause? arg).isNone with
        | [] => { time := (args.filterMap pause?).foldl (· + ·) 0 }
        | wrong => refuses (wrong.map fun arg => "sleep: invalid time interval '" ++ arg ++ "'")

/-! ## Tests -/

/-- The comparisons of integers. -/
def comparison? (op : String) : Option (Int → Int → Bool) :=
  match op with
  | "-eq" => some (· = ·)
  | "-ne" => some (· ≠ ·)
  | "-lt" => some (· < ·)
  | "-le" => some (· ≤ ·)
  | "-gt" => some (· > ·)
  | "-ge" => some (· ≥ ·)
  | _ => none

/-- The integer that an operand is, with blanks around it or not. -/
def operand? (s : String) : Option Int :=
  let text := Text.stripped s
  if text.isEmpty then none else integerArgument text

/-- The truth of a test of at most three arguments behind signs of negation, or what is wrong
with it.  Of files only a few are known. -/
def simpleTest : List String → Except String Bool
  | [] => .ok false
  | [a] => .ok (a ≠ "")
  | ["!", a] => .ok (a = "")
  | ["-n", a] => .ok (a ≠ "")
  | ["-z", a] => .ok (a = "")
  | ["-e", path] => .ok (["/", "/dev", "/dev/null", "/dev/zero"].contains path)
  | ["-d", path] => .ok (["/", "/dev"].contains path)
  | [a, b] =>
      if (comparison? b).isSome then .error (b ++ ": argument expected")
      else if a.startsWith "-" then .ok false
      else .error (a ++ ": unexpected operator")
  | [a, "=", b] => .ok (a = b)
  | [a, "!=", b] => .ok (a ≠ b)
  | "!" :: rest => (simpleTest rest).map (!·)
  | [a, op, b] =>
      match comparison? op, operand? a, operand? b with
      | none, _, _ => .error (a ++ ": unexpected operator")
      | some _, none, _ => .error ("Illegal number: " ++ a)
      | some _, _, none => .error ("Illegal number: " ++ b)
      | some holds, some a, some b => .ok (holds a b)
  | a :: _ => .error (a ++ ": unexpected operator")

/-- The arguments between the occurrences of a word. -/
def between (word : String) : List String → List (List String)
  | [] => [[]]
  | arg :: args =>
      match between word args with
      | first :: rest => if arg = word then [] :: first :: rest else (arg :: first) :: rest
      | [] => [[arg]]

/-- The truth of a test: of long ones some part between `-o` has to hold, and of that all parts
between `-a`. -/
def test (args : List String) : Except String Bool :=
  if args.length ≤ 4 then simpleTest args
  else do
    let parts ← (between "-o" args).mapM fun part => (between "-a" part).mapM simpleTest
    return parts.any fun part => part.all id

/-- A run of a test under the name that complaints start with. -/
def tested (label : String) (args : List String) : Finished :=
  match test args with
  | .ok b => { status := if b then 0 else 1 }
  | .error message => complains (label ++ ": " ++ message) 2

/-! ## The table -/

/-- A program by its name. -/
def find? (name : String) : Option (List String → List UInt8 → Finished) :=
  match name with
  | "true" => some fun _ _ => {}
  | "false" => some fun _ _ => { status := 1 }
  | "echo" => some fun args _ => echo args
  | "printf" => some fun args _ => printf "printf" args
  | "cat" => some fun args input => sources "cat" 0 input args
  | "head" => some head
  | "tail" => some tail
  | "wc" => some count
  | "tr" => some transliterate
  | "seq" => some fun args _ => sequence args
  | "sleep" => some fun args _ => sleep args
  | "test" => some fun args _ => tested "test" args
  | _ => none

end Program
end Reachability
