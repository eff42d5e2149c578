import Conform.CharSet.Algebra

/-! The sets of plain characters that patterns have names for. -/

namespace Conform.CharSet

def ascii : CharSet := range '\x00' '\x7f'

def asciiDigit : CharSet := range '0' '9'

def asciiWord : CharSet := ofRanges [('0', '9'), ('A', 'Z'), ('_', '_'), ('a', 'z')]

def asciiSpace : CharSet := ofRanges [('\t', '\r'), (' ', ' ')]

def asciiNamed : List (String × CharSet) :=
  [("alnum", ofRanges [('0', '9'), ('A', 'Z'), ('a', 'z')]),
    ("alpha", ofRanges [('A', 'Z'), ('a', 'z')]),
    ("ascii", ascii),
    ("blank", ofRanges [('\t', '\t'), (' ', ' ')]),
    ("cntrl", ofRanges [('\x00', '\x1f'), ('\x7f', '\x7f')]),
    ("digit", asciiDigit),
    ("graph", range '!' '~'),
    ("lower", range 'a' 'z'),
    ("print", range ' ' '~'),
    ("punct", ofRanges [('!', '/'), (':', '@'), ('[', '\x60'), ('\x7b', '~')]),
    ("space", asciiSpace),
    ("upper", range 'A' 'Z'),
    ("word", asciiWord),
    ("xdigit", ofRanges [('0', '9'), ('A', 'F'), ('a', 'f')])]

end Conform.CharSet
