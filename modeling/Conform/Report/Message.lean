/-! Messages, whose text may be put off until somebody reads it. -/

namespace Conform

inductive Message where
  | fixed (text : String)
  | deferred (text : Thunk String)

namespace Message

def defer (text : Unit → String) : Message := deferred (Thunk.mk text)

def text : Message → String
  | fixed text => text
  | deferred text => text.get

/-- Whether there is nothing left to do before the text can be read. -/
def isReady : Message → Bool
  | fixed _ => true
  | deferred _ => false

/-- A message around this one; its text is put off even if this one is fixed. -/
def map (m : Message) (wrap : String → String) : Message := defer fun _ => wrap m.text

@[simp] theorem text_defer (text : Unit → String) : (defer text).text = text () := rfl

@[simp] theorem isReady_defer (text : Unit → String) : (defer text).isReady = false := rfl

@[simp] theorem text_map (m : Message) (wrap : String → String) :
    (m.map wrap).text = wrap m.text := rfl

@[simp] theorem isReady_map (m : Message) (wrap : String → String) :
    (m.map wrap).isReady = false := rfl

end Message

end Conform
