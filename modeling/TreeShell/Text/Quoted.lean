import TreeShell.Text.Blank
import TreeShell.Text.PrintableTable
import TreeShell.Text.Units

namespace TreeShell.Text

def isPrintable (c : Char) : Bool :=
  if c.toNat < 128 then 0x20 ≤ c.toNat && c.toNat < 0x7F
  else !inRanges PrintableTable.unprintable c

/-- The last digits of a number in base sixteen, as many as asked for. -/
def hexDigits : Nat → Nat → List Char
  | 0, _ => []
  | width + 1, value => hexDigits width (value / 16) ++ [Nat.digitChar (value % 16)]

def escapeNumber (c : Char) : List Char :=
  if code c < 0x100 then '\\' :: 'x' :: hexDigits 2 (code c)
  else if code c < 0x10000 then '\\' :: 'u' :: hexDigits 4 (code c)
  else '\\' :: 'U' :: hexDigits 8 (code c)

def quoteChar (quote c : Char) : List Char :=
  if c = quote ∨ c = '\\' then ['\\', c]
  else if c = '\n' then ['\\', 'n']
  else if c = '\r' then ['\\', 'r']
  else if c = '\t' then ['\\', 't']
  else if isPrintable c then [c]
  else escapeNumber c

def chooseQuote (text : List Char) : Char :=
  if text.contains '\'' && !text.contains '"' then '"' else '\''

def quoted (text : String) : String :=
  let quote := chooseQuote text.toList
  String.ofList (quote :: text.toList.flatMap (quoteChar quote) ++ [quote])

def unwritable? (text : String) : Option String :=
  (text.toList.findIdx? isHalf).map fun first =>
    let place := match (text.toList.drop first).takeWhile isHalf with
      | [half] => s!"character '{String.ofList (escapeNumber half)}' in position {first}"
      | run => s!"characters in position {first}-{first + run.length - 1}"
    s!"'utf-8' codec can't encode {place}: surrogates not allowed"

end TreeShell.Text
