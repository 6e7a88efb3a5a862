/-!
# `controller_options.h`

The sizes and the names that the server and the client share.
-/

namespace Task6

/-- `DATA_BUFFER_SIZE`. -/
def dataBufferSize : Nat := 0x10000

def task6PipeServerName : String := "\\\\.\\pipe\\task6_pipe_server"
def task6SharedMemoryName : String := "task6_shared_memory"
def task6SharedMemorySvToClEventName : String := "task6_svtocl_event"
def task6SharedMemoryClToSvEventName : String := "task6_cltosv_event"

end Task6
