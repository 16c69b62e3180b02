import FormFill.Text.Basic

/-!
# Line ends

A line may end with a line feed, with a carriage return, or with both. Read as lines, all three are
one line feed.
-/

namespace FormFill.Text

/-- A text in which every line ends with a line feed; `done` holds what was read before, from the end,
and `afterReturn` says whether a carriage return has just been read. -/
def lineFeedsAfter (done : Text) (afterReturn : Bool) : Text → Text
  | [] => done.reverse
  | c :: rest =>
    if c = '\r' then lineFeedsAfter ('\n' :: done) true rest
    else if c = '\n' ∧ afterReturn then lineFeedsAfter done false rest
    else lineFeedsAfter (c :: done) false rest

/-- A text in which every line ends with a line feed. -/
def withLineFeeds (text : Text) : Text := lineFeedsAfter [] false text

end FormFill.Text
