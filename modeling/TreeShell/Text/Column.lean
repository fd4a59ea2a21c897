namespace TreeShell.Text

def filler (width : Nat) (text : String) : String :=
  String.ofList (List.replicate (width - text.length) ' ')

def alignRight (width : Nat) (text : String) : String := filler width text ++ text

def alignLeft (width : Nat) (text : String) : String := text ++ filler width text

def twoPlaces (value : Nat) : String :=
  if value < 10 then "0" ++ toString value else toString value

end TreeShell.Text
