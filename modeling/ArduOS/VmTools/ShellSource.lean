import ArduOS.VmTools.Shell

/-!
# The source of the shell

`shell.asm`, without its comments and empty lines.
-/

namespace ArduOS

def shellSource : List (List Char) :=
  ["# @heap 256".toList,
    "INIT:".toList, "PUSH 0".toList, "PUSH 0".toList, "STORE".toList, "PUSH 200".toList,
    "PUSH 4".toList, "SYS".toList, "PUSH 200".toList, "PRTS".toList, "PUSH '>'".toList,
    "PRTC".toList, "PUSH 32".toList, "PRTC".toList,
    "LOOP:".toList, "READ".toList, "DUP".toList, "PUSH 0".toList, "EQ".toList,
    "JIF CLEANUP".toList, "DUP".toList, "PUSH 13".toList, "EQ".toList,
    "JIF CLEANUP".toList, "DUP".toList, "PUSH 10".toList, "EQ".toList,
    "JIF PARSE".toList, "PUSH 0".toList, "LOAD".toList, "PUSH 1".toList, "ADD".toList,
    "STORE".toList, "PUSH 0".toList, "LOAD".toList, "PUSH 1".toList, "ADD".toList,
    "PUSH 0".toList, "STORE".toList, "JMP LOOP".toList,
    "CLEANUP:".toList, "POP".toList, "JMP LOOP".toList,
    "PARSE:".toList, "POP".toList, "PUSH 0".toList, "PUSH 0".toList, "LOAD".toList,
    "PUSH 1".toList, "ADD".toList, "STORE".toList, "PUSH 1".toList, "PUSH 64".toList,
    "STORE".toList,
    "SCAN_LOOP:".toList, "PUSH 64; LOAD; LOAD".toList, "DUP".toList, "PUSH 0".toList,
    "EQ".toList, "JIF NO_ARGS".toList, "DUP".toList, "PUSH 32".toList, "EQ".toList,
    "JIF FOUND_SPACE".toList, "POP".toList,
    "PUSH 64; LOAD; PUSH 1; ADD; PUSH 64; STORE".toList, "JMP SCAN_LOOP".toList,
    "FOUND_SPACE:".toList, "POP".toList, "PUSH 0".toList, "PUSH 64".toList,
    "LOAD".toList, "STORE".toList, "PUSH 64; LOAD; PUSH 1; ADD".toList,
    "JMP DISPATCH".toList,
    "NO_ARGS:".toList, "POP".toList, "PUSH 0".toList,
    "DISPATCH:".toList, "PUSH 67".toList, "STORE".toList, "PUSH 67; LOAD".toList,
    "PUSH 0".toList, "EQ".toList, "JIF NO_ARGS_TO_COPY".toList, "PUSH 110".toList,
    "PUSH 68".toList, "STORE".toList, "PUSH 67; LOAD".toList, "PUSH 69".toList,
    "STORE".toList,
    "COPY_ARGS_LOOP:".toList, "PUSH 69; LOAD; LOAD".toList, "DUP".toList,
    "PUSH 0".toList, "EQ".toList, "JIF COPY_ARGS_END".toList,
    "PUSH 68; LOAD; STORE".toList, "PUSH 68; LOAD; PUSH 1; ADD; PUSH 68; STORE".toList,
    "PUSH 69; LOAD; PUSH 1; ADD; PUSH 69; STORE".toList, "JMP COPY_ARGS_LOOP".toList,
    "COPY_ARGS_END:".toList, "POP".toList, "PUSH 0".toList,
    "PUSH 68; LOAD; STORE".toList, "PUSH 110".toList, "PUSH 67".toList, "STORE".toList,
    "JMP CONTINUE_DISPATCH".toList,
    "NO_ARGS_TO_COPY:".toList, "PUSH 0".toList, "PUSH 67".toList, "STORE".toList,
    "CONTINUE_DISPATCH:".toList, "PUSH 1".toList, "PUSH 66".toList, "STORE".toList,
    "PUSH 66; LOAD; LOAD".toList, "PUSH 'c'".toList, "EQ".toList,
    "JIF CHECK_CD_2".toList, "JMP CHECK_EXEC".toList,
    "CHECK_CD_2:".toList, "PUSH 66; LOAD; PUSH 1; ADD; PUSH 66; STORE".toList,
    "PUSH 66; LOAD; LOAD".toList, "PUSH 'd'".toList, "EQ".toList,
    "JIF CHECK_CD_END".toList, "JMP CHECK_EXEC".toList,
    "CHECK_CD_END:".toList, "PUSH 66; LOAD; PUSH 1; ADD; PUSH 66; STORE".toList,
    "PUSH 66; LOAD; LOAD".toList, "DUP".toList, "PUSH 0".toList, "EQ".toList,
    "JIF DO_CD".toList, "DUP".toList, "PUSH 32".toList, "EQ".toList, "JIF DO_CD".toList,
    "POP".toList, "JMP CHECK_EXEC".toList,
    "DO_CD:".toList, "PUSH 200".toList, "PUSH 67; LOAD".toList, "PUSH 3".toList,
    "SYS".toList, "JMP RESET".toList,
    "CHECK_EXEC:".toList, "PUSH 1".toList, "PUSH 66; STORE".toList,
    "PUSH 66; LOAD; LOAD".toList, "PUSH 'e'".toList, "EQ".toList,
    "JIF CHECK_EXEC_2".toList, "JMP TRY_NEXT_CHECK".toList,
    "CHECK_EXEC_2:".toList, "PUSH 66; LOAD; PUSH 1; ADD; PUSH 66; STORE".toList,
    "PUSH 66; LOAD; LOAD".toList, "PUSH 'x'".toList, "EQ".toList,
    "JIF CHECK_EXEC_3".toList, "JMP TRY_NEXT_CHECK".toList,
    "CHECK_EXEC_3:".toList, "PUSH 66; LOAD; PUSH 1; ADD; PUSH 66; STORE".toList,
    "PUSH 66; LOAD; LOAD".toList, "PUSH 'e'".toList, "EQ".toList,
    "JIF CHECK_EXEC_4".toList, "JMP TRY_NEXT_CHECK".toList,
    "CHECK_EXEC_4:".toList, "PUSH 66; LOAD; PUSH 1; ADD; PUSH 66; STORE".toList,
    "PUSH 66; LOAD; LOAD".toList, "PUSH 'c'".toList, "EQ".toList,
    "JIF CHECK_EXEC_END".toList, "JMP TRY_NEXT_CHECK".toList,
    "CHECK_EXEC_END:".toList, "PUSH 66; LOAD; PUSH 1; ADD; PUSH 66; STORE".toList,
    "PUSH 66; LOAD; LOAD".toList, "DUP".toList, "PUSH 0".toList, "EQ".toList,
    "JIF PARSE_EXEC_START".toList, "DUP".toList, "PUSH 32".toList, "EQ".toList,
    "JIF PARSE_EXEC_START".toList, "POP".toList, "JMP TRY_NEXT_CHECK".toList,
    "TRY_NEXT_CHECK:".toList, "JMP DO_EXEC".toList,
    "PARSE_EXEC_START:".toList, "POP".toList, "PUSH 1".toList, "PUSH 82; STORE".toList,
    "PUSH 67; LOAD".toList, "PUSH 80; STORE".toList,
    "PUSH 80; LOAD; PUSH 0; EQ; JIF RESET".toList, "PUSH 80; LOAD; LOAD".toList,
    "PUSH '-'".toList, "EQ".toList, "JIF CHECK_FLAG_B".toList, "JMP PARSE_PATH".toList,
    "CHECK_FLAG_B:".toList, "PUSH 80; LOAD; PUSH 1; ADD; LOAD".toList,
    "PUSH 'b'".toList, "EQ".toList, "JIF SET_ASYNC".toList, "JMP PARSE_PATH".toList,
    "SET_ASYNC:".toList, "PUSH 0".toList, "PUSH 82; STORE".toList,
    "PUSH 80; LOAD; PUSH 2; ADD; PUSH 80; STORE".toList,
    "SKIP_SPACE_LOOP:".toList, "PUSH 80; LOAD; LOAD".toList, "PUSH 32".toList,
    "EQ".toList, "JIF SKIP_SPACE_ACTION".toList, "JMP PARSE_PATH".toList,
    "SKIP_SPACE_ACTION:".toList, "PUSH 80; LOAD; PUSH 1; ADD; PUSH 80; STORE".toList,
    "JMP SKIP_SPACE_LOOP".toList,
    "PARSE_PATH:".toList, "PUSH 150".toList, "PUSH 81; STORE".toList,
    "COPY_PATH_LOOP:".toList, "PUSH 80; LOAD; LOAD".toList,
    "DUP; PUSH 0; EQ; JIF COPY_PATH_END".toList,
    "DUP; PUSH 32; EQ; JIF COPY_PATH_END_SPACE".toList, "PUSH 81; LOAD; STORE".toList,
    "PUSH 80; LOAD; PUSH 1; ADD; PUSH 80; STORE".toList,
    "PUSH 81; LOAD; PUSH 1; ADD; PUSH 81; STORE".toList, "JMP COPY_PATH_LOOP".toList,
    "COPY_PATH_END_SPACE:".toList, "POP".toList,
    "PUSH 80; LOAD; PUSH 1; ADD; PUSH 80; STORE".toList,
    "SKIP_ARGS_SPACE:".toList, "PUSH 80; LOAD; LOAD".toList, "PUSH 32".toList,
    "EQ".toList, "JIF SKIP_ARGS_SPACE_ACTION".toList, "JMP TERMINATE_PATH".toList,
    "SKIP_ARGS_SPACE_ACTION:".toList,
    "PUSH 80; LOAD; PUSH 1; ADD; PUSH 80; STORE".toList, "JMP SKIP_ARGS_SPACE".toList,
    "COPY_PATH_END:".toList, "POP".toList, "PUSH 0".toList, "PUSH 80; STORE".toList,
    "TERMINATE_PATH:".toList, "PUSH 0".toList, "PUSH 81; LOAD; STORE".toList,
    "PUSH 80; LOAD".toList, "PUSH 150".toList, "PUSH 82; LOAD".toList, "PUSH 2".toList,
    "SYS".toList, "JMP RESET".toList,
    "DO_EXEC:".toList, "PUSH '/'".toList, "PUSH 70".toList, "STORE".toList,
    "PUSH 'b'".toList, "PUSH 71".toList, "STORE".toList, "PUSH 'i'".toList,
    "PUSH 72".toList, "STORE".toList, "PUSH 'n'".toList, "PUSH 73".toList,
    "STORE".toList, "PUSH '/'".toList, "PUSH 74".toList, "STORE".toList,
    "PUSH 75".toList, "PUSH 65".toList, "STORE".toList, "PUSH 1".toList,
    "PUSH 66".toList, "STORE".toList,
    "COPY_CMD_LOOP:".toList, "PUSH 66; LOAD; LOAD".toList, "DUP".toList,
    "PUSH 0".toList, "EQ".toList, "JIF COPY_CMD_END".toList,
    "PUSH 65; LOAD; STORE".toList, "PUSH 65; LOAD; PUSH 1; ADD; PUSH 65; STORE".toList,
    "PUSH 66; LOAD; PUSH 1; ADD; PUSH 66; STORE".toList, "JMP COPY_CMD_LOOP".toList,
    "COPY_CMD_END:".toList, "POP".toList, "PUSH '.'".toList,
    "PUSH 65; LOAD; STORE".toList, "PUSH 65; LOAD; PUSH 1; ADD; PUSH 65; STORE".toList,
    "PUSH 'b'".toList, "PUSH 65; LOAD; STORE".toList,
    "PUSH 65; LOAD; PUSH 1; ADD; PUSH 65; STORE".toList, "PUSH 'i'".toList,
    "PUSH 65; LOAD; STORE".toList, "PUSH 65; LOAD; PUSH 1; ADD; PUSH 65; STORE".toList,
    "PUSH 'n'".toList, "PUSH 65; LOAD; STORE".toList,
    "PUSH 65; LOAD; PUSH 1; ADD; PUSH 65; STORE".toList, "PUSH 0".toList,
    "PUSH 65; LOAD; STORE".toList, "PUSH 67; LOAD".toList, "PUSH 70".toList,
    "PUSH 1".toList, "PUSH 2".toList, "SYS".toList, "JMP RESET".toList,
    "RESET:".toList, "PUSH 1".toList, "PUSH 65".toList, "STORE".toList,
    "CLEAR_LOOP:".toList, "PUSH 0".toList, "PUSH 65; LOAD; STORE".toList,
    "PUSH 65; LOAD; PUSH 1; ADD; PUSH 65; STORE".toList, "PUSH 65; LOAD".toList,
    "PUSH 64".toList, "EQ".toList, "JIF CLEAR_LOOP_END".toList, "JMP CLEAR_LOOP".toList,
    "CLEAR_LOOP_END:".toList, "PUSH 0".toList, "PUSH 0".toList, "STORE".toList,
    "PUSH 200".toList, "PRTS".toList, "PUSH '>'".toList, "PRTC".toList,
    "PUSH 32".toList, "PRTC".toList, "JMP LOOP".toList]

set_option maxRecDepth 20000 in
theorem shell_assembled :
    Unicode.ascii.assemble shellSource = .ok shellProgram ∧
      (Unicode.ascii.pass1 shellSource).toOption.map
        (fun s => shellLabels.map fun label => s.labels.lookup label.1) =
          some (shellLabels.map fun label => some label.2.1) ∧
      ("LOOP".toList, shellLoop, 0) ∈ shellLabels ∧
      ("DO_CD".toList, shellDoCd, 1) ∈ shellLabels := by
  decide +kernel

end ArduOS
