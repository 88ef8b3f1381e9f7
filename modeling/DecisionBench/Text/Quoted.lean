import DecisionBench.Text.Extender
import DecisionBench.Text.Numeral
import DecisionBench.Text.Unprintable

/-!
# Quoted texts

A text for a message is shown in double quotes.  Quotes, backslashes and the usual controls have
escapes of two characters; every other character that would not show, or would join its neighbour,
is written by its number.
-/

namespace DecisionBench.Text

/-- One character of a quoted text. -/
def quotedChar (c : Char) : List Char :=
  if c = '\x00' then ['\\', '0']
  else if c = '\t' then ['\\', 't']
  else if c = '\n' then ['\\', 'n']
  else if c = '\r' then ['\\', 'r']
  else if c = '\x22' then ['\\', '\x22']
  else if c = '\\' then ['\\', '\\']
  else if isPrintable c && !isExtender c then [c]
  else '\\' :: 'u' :: '\x7b' :: Numeral.hexadecimal c.toNat ++ ['\x7d']

/-- A text between double quotes. -/
def quoted (text : String) : String :=
  String.ofList ('\x22' :: text.toList.flatMap quotedChar ++ ['\x22'])

end DecisionBench.Text
