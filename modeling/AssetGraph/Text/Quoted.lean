import AssetGraph.Text.Decimal
import AssetGraph.Text.Unprintable
/-!
# Quoted texts

How messages show a text that may hold anything: between double quotes, with a backslash in front of
quotes and backslashes, short escapes for NUL, tab, line feed and carriage return, and `\u` with the
code point in braces for every other character that does not show on its own.
-/
namespace AssetGraph.Text

/-- A code point between braces, in lower-case base sixteen. -/
def codePointEscape (c : Char) : List Char :=
  '\\' :: 'u' :: '\x7b' :: (Decimal.hexDigits c.toNat ++ ['\x7d'])

def escapeChar (c : Char) : List Char :=
  if c = '\x00' then ['\\', '0']
  else if c = '\t' then ['\\', 't']
  else if c = '\n' then ['\\', 'n']
  else if c = '\r' then ['\\', 'r']
  else if c = '"' then ['\\', '"']
  else if c = '\\' then ['\\', '\\']
  else if isUnprintable c then codePointEscape c
  else [c]

/-- **A text as messages quote it.** -/
def quoted (s : String) : String :=
  String.ofList ('"' :: (s.toList.flatMap escapeChar ++ ['"']))

end AssetGraph.Text
